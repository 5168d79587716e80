import DqScoring.Common.RedactionUtils
import DqScoring.Framework.ListOrder
import DqScoring.Framework.Transition
import DqScoring.Framework.Traverse
import Mathlib.Data.String.Basic

/-!
# Schema migrations

`adapters/db/migrator.py`: the scripts of a directory, in the order of their versions, each run in
one transaction with its row of `schema_migrations`; and the undoing of the last one.

The connection may be in autocommit mode. When it is not, the `SELECT` of the versions has opened a
transaction, so that `conn.transaction()` is a savepoint in it, and what was applied lasts only if
the caller commits. A script is a partial function of the schema, and may fail at any call: that
stands also for a connection that is lost there. Scripts leave `schema_migrations` and the
transaction alone, as those of the repository do.

In a run of calls, commits, lost connections and releases of the directory, the registered versions
are an initial segment of those of the directory. The schema is what their scripts make of the empty
one, provided that each down script that runs undoes its version: several down scripts of the
repository do not, as they leave roles or grants behind (`MigrationRun.migrations_lineage`).
-/

namespace DqScoring

open Framework

/-! ### The directory -/

/-- A file of the migrations directory; its text is absent where it is not UTF-8. -/
structure MigrationFile where
  name : String
  isFile : Bool := true
  text : Option String
  deriving DecidableEq

/-- `^(\d+)_(.+)<suffix>$`; the two groups. `$` also matches before a line feed at the end. -/
def UnicodeTables.matchScript (k : UnicodeTables) (suffix fileName : String) :
    Option (String × String) :=
  let version := fileName.toList.takeWhile k.isDigit
  -- digits, an underscore, a name and the suffix
  match fileName.toList.dropWhile k.isDigit with
  | '_' :: rest =>
    -- `$` also matches before a final newline
    let line := if rest.getLast? = some '\n' then rest.dropLast else rest
    let name := line.take (line.length - suffix.length)
    if version ≠ [] ∧ name ≠ [] ∧ '\n' ∉ name ∧ line = name ++ suffix.toList then
      some (String.ofList version, String.ofList name)
    else none
  | _ => none

/-- A file that `apply_all_migrations` runs, with its version and name. -/
structure MigrationScript where
  version : String
  name : String
  file : MigrationFile
  deriving DecidableEq

/-- The candidate that a file is. -/
def UnicodeTables.candidate? (k : UnicodeTables) (f : MigrationFile) : Option MigrationScript :=
  if f.isFile ∧ ¬ "_down.sql".toList <:+ f.name.toList then
    (k.matchScript ".sql" f.name).map fun m => { version := m.1, name := m.2, file := f }
  else none

/-- `candidates`, sorted by version. -/
def UnicodeTables.candidates (k : UnicodeTables) (files : List MigrationFile) :
    List MigrationScript :=
  sortByKey (·.version) (files.filterMap k.candidate?)

/-- The file is a down script of the version. -/
def UnicodeTables.isDownOf (k : UnicodeTables) (version : String) (f : MigrationFile) : Bool :=
  f.isFile && (k.matchScript "_down.sql" f.name).any fun m => m.1 = version

/-! ### The database -/

/-- A row of `schema_migrations`. -/
structure SchemaMigration where
  version : String
  name : String
  deriving DecidableEq

/-- The database: the table of the migrator, absent before its first use, and all else. -/
structure MigratedDb (σ : Type) where
  history : Option (List SchemaMigration)
  schema : σ

/-- The server: scripts, and the order of a column of texts. -/
structure Postgres (σ : Type) where
  /-- A script on a schema; absent where a statement of it fails. -/
  execute : String → σ → Option σ
  /-- `ORDER BY`, under the collation of the database. -/
  orderBy : List String → List String
  orderBy_perm : ∀ l, (orderBy l).Perm l
  orderBy_digits : ∀ l, (∀ v ∈ l, v.toList.all Char.isDigit = true) →
    (orderBy l).Pairwise (· ≤ ·)

/-- A connection: what is committed, and the view of the transaction that is open on it. -/
structure DbConnection (σ : Type) where
  autocommit : Bool
  durable : MigratedDb σ
  opened : Option (MigratedDb σ) := none

/-- What a migration raises. -/
inductive MigrationFault where
  /-- `FileNotFoundError` of `iterdir`. -/
  | noDirectory
  /-- `FileNotFoundError` of `rollback_last_migration`. -/
  | noDownScript (version : String)
  /-- `UnicodeDecodeError` -/
  | notText
  | scriptFailed
  /-- The primary key of `schema_migrations`. -/
  | duplicateVersion
  deriving DecidableEq

variable {σ : Type}

namespace MigratedDb

/-- The rows of `schema_migrations`. -/
def rows (db : MigratedDb σ) : List SchemaMigration := db.history.getD []

/-- `CREATE TABLE IF NOT EXISTS schema_migrations` -/
def createHistory (db : MigratedDb σ) : MigratedDb σ := { db with history := some db.rows }

/-- The body of the transaction of one migration. -/
def migrate (pg : Postgres σ) (m : MigrationScript) (sql : String) (db : MigratedDb σ) :
    Except MigrationFault (MigratedDb σ) :=
  -- the script and the row commit together
  match pg.execute sql db.schema with
  | none => .error .scriptFailed
  | some schema =>
    -- the version is the primary key
    if db.rows.any fun r => r.version = m.version then .error .duplicateVersion
    else .ok { history := some (db.rows ++ [{ version := m.version, name := m.name }]),
               schema := schema }

/-- The body of the transaction of a rollback. -/
def revert (pg : Postgres σ) (version : String) (sql : String) (db : MigratedDb σ) :
    Except MigrationFault (MigratedDb σ) :=
  match pg.execute sql db.schema with
  | none => .error .scriptFailed
  | some schema =>
    .ok { history := some (db.rows.filter fun r => r.version ≠ version), schema := schema }

@[simp] theorem rows_createHistory (db : MigratedDb σ) : db.createHistory.rows = db.rows := rfl

@[simp] theorem schema_createHistory (db : MigratedDb σ) : db.createHistory.schema = db.schema :=
  rfl

end MigratedDb

namespace DbConnection

/-- What the connection sees. -/
def current (c : DbConnection σ) : MigratedDb σ := c.opened.getD c.durable

/-- A statement outside `conn.transaction()`. -/
def execute (f : MigratedDb σ → MigratedDb σ) (c : DbConnection σ) : DbConnection σ :=
  if c.autocommit then { c with durable := f c.current, opened := none }
  else { c with opened := some (f c.current) }

/-- `conn.commit()` -/
def commit (c : DbConnection σ) : DbConnection σ := { c with durable := c.current, opened := none }

/-- `conn.rollback()` -/
def rollback (c : DbConnection σ) : DbConnection σ := { c with opened := none }

/-- `with conn.transaction()`: a transaction of its own, or a savepoint in the one that is open. -/
def transaction (body : MigratedDb σ → Except MigrationFault (MigratedDb σ))
    (c : DbConnection σ) : DbConnection σ × Except MigrationFault Unit :=
  match body c.current with
  | .error e => (c, .error e)
  | .ok db =>
    if c.opened.isNone then ({ c with durable := db }, .ok ())
    else ({ c with opened := some db }, .ok ())

/-- `init_schema_history` -/
def initSchemaHistory (c : DbConnection σ) : DbConnection σ :=
  (c.execute MigratedDb.createHistory).commit

/-- `get_applied_migrations` -/
def getAppliedMigrations (pg : Postgres σ) (c : DbConnection σ) : DbConnection σ × List String :=
  let c := c.initSchemaHistory
  (c.execute id, pg.orderBy (c.current.rows.map (·.version)))

/-- The loop of `apply_all_migrations`. -/
def applyPending (pg : Postgres σ) (applied : List String) :
    List MigrationScript → DbConnection σ → DbConnection σ × Except MigrationFault (List String)
  | [], c => (c, .ok [])
  | m :: rest, c =>
    -- an applied version is skipped
    if m.version ∈ applied then applyPending pg applied rest c
    else
      match m.file.text with
      | none => (c, .error .notText)
      | some sql =>
        -- each script has a transaction of its own
        match c.transaction (MigratedDb.migrate pg m sql) with
        | (c', .error e) => (c', .error e)
        | (c', .ok ()) =>
          let (c'', result) := applyPending pg applied rest c'
          (c'', result.map (m.version :: ·))

/-- `apply_all_migrations`; the directory is absent where it does not exist. -/
def applyAllMigrations (k : UnicodeTables) (pg : Postgres σ) (dir : Option (List MigrationFile))
    (c : DbConnection σ) : DbConnection σ × Except MigrationFault (List String) :=
  let (c, applied) := c.initSchemaHistory.getAppliedMigrations pg
  match dir with
  | none => (c, .error .noDirectory)
  | some files => applyPending pg applied (k.candidates files) c

/-- `rollback_last_migration` -/
def rollbackLastMigration (k : UnicodeTables) (pg : Postgres σ) (dir : Option (List MigrationFile))
    (c : DbConnection σ) : DbConnection σ × Except MigrationFault (Option String) :=
  let (c, applied) := c.initSchemaHistory.getAppliedMigrations pg
  match applied.getLast? with
  | none => (c, .ok none)
  | some last =>
    match dir with
    -- the last version is rolled back by its own script
    | none => (c, .error .noDirectory)
    | some files =>
      match files.find? (k.isDownOf last) with
      | none => (c, .error (.noDownScript last))
      | some f =>
        match f.text with
        | none => (c, .error .notText)
        | some sql =>
          -- and its row is deleted with it
          match c.transaction (MigratedDb.revert pg last sql) with
          | (c', .error e) => (c', .error e)
          | (c', .ok ()) => (c', .ok (some last))

end DbConnection

/-! ### What the scripts make -/

namespace MigrationScript

/-- The row of a script. -/
def row (m : MigrationScript) : SchemaMigration := { version := m.version, name := m.name }

/-- A script on a schema; absent where it cannot be read or fails. -/
def run (pg : Postgres σ) (s : σ) (m : MigrationScript) : Option σ :=
  m.file.text.bind fun sql => pg.execute sql s

@[simp] theorem version_row (m : MigrationScript) : m.row.version = m.version := rfl

end MigrationScript

/-- The schema that the scripts make of the empty one. -/
def MadeFrom (pg : Postgres σ) (empty : σ) (scripts : List MigrationScript) (s : σ) : Prop :=
  scripts.foldlM (MigrationScript.run pg) empty = some s

/-- The scripts are registered, and the schema is one that goes with them. What goes with them is a
parameter: `MadeFrom`, or anything where nothing is said of the schema. -/
structure BuiltBy (Made : List MigrationScript → σ → Prop) (scripts : List MigrationScript)
    (db : MigratedDb σ) : Prop where
  rows : db.rows = scripts.map (·.row)
  schema : Made scripts db.schema

/-- The database is made by an initial segment of the directory. -/
def Lineage (k : UnicodeTables) (Made : List MigrationScript → σ → Prop)
    (files : List MigrationFile) (db : MigratedDb σ) : Prop :=
  ∃ scripts, scripts <+: k.candidates files ∧ BuiltBy Made scripts db

/-- The registered versions are an initial segment of those of the directory. -/
def RegisteredVersions (k : UnicodeTables) (files : List MigrationFile)
    (db : MigratedDb σ) : Prop :=
  ∃ scripts, scripts <+: k.candidates files ∧ db.rows = scripts.map (·.row)

/-- What is relied on of a directory: its versions are ASCII digits, and no two files have one
version. -/
structure SoundDirectory (k : UnicodeTables) (files : List MigrationFile) : Prop where
  digits : ∀ m ∈ k.candidates files, m.version.toList.all Char.isDigit = true
  distinct : ((k.candidates files).map (·.version)).Nodup

/-- A down script that runs leads back to the schema before its version. -/
structure UndoesVersions (k : UnicodeTables) (pg : Postgres σ) (empty : σ)
    (files : List MigrationFile) : Prop where
  undoes : ∀ {scripts m f down s s' s''}, scripts ++ [m] <+: k.candidates files →
    MadeFrom pg empty scripts s → m.run pg s = some s' →
    f ∈ files → k.isDownOf m.version f = true → f.text = some down →
    pg.execute down s' = some s'' → s'' = s

/-- The scripts and down scripts of the directory, where they run, keep what goes with the
registered ones. -/
structure KeptBy (k : UnicodeTables) (pg : Postgres σ) (files : List MigrationFile)
    (Made : List MigrationScript → σ → Prop) : Prop where
  up : ∀ {scripts m s s'}, Made scripts s → m.run pg s = some s' → Made (scripts ++ [m]) s'
  down : ∀ {scripts m f sql s s'}, scripts ++ [m] <+: k.candidates files →
    Made (scripts ++ [m]) s → f ∈ files → k.isDownOf m.version f = true → f.text = some sql →
    pg.execute sql s = some s' → Made scripts s'

/-- Where nothing is said of the schema, there is nothing to keep. -/
theorem keptBy_any (k : UnicodeTables) (pg : Postgres σ) (files : List MigrationFile) :
    KeptBy k pg files fun _ _ => True :=
  ⟨fun _ _ => trivial, fun _ _ _ _ _ _ => trivial⟩

/-- The schema of one more script is that script run on the schema before it. -/
theorem madeFrom_append_singleton {pg : Postgres σ} {empty : σ} {scripts : List MigrationScript}
    {m : MigrationScript} {s' : σ} :
    MadeFrom pg empty (scripts ++ [m]) s' ↔ ∃ s, MadeFrom pg empty scripts s ∧
      m.run pg s = some s' := by
  unfold MadeFrom
  rw [List.foldlM_append]
  simp only [List.foldlM_cons, List.foldlM_nil, Option.bind_eq_bind, Option.bind_eq_some_iff]
  constructor
  · rintro ⟨s, h_before, s₁, h_run, h_nil⟩
    obtain rfl := Option.some.inj h_nil
    exact ⟨s, h_before, h_run⟩
  · rintro ⟨s, h_before, h_run⟩
    exact ⟨s, h_before, s', h_run, rfl⟩

/-- Down scripts that undo their versions keep the schema to the scripts. -/
theorem UndoesVersions.keptBy {k : UnicodeTables} {pg : Postgres σ} {empty : σ}
    {files : List MigrationFile} (h : UndoesVersions k pg empty files) :
    KeptBy k pg files (MadeFrom pg empty) where
  up h_made h_run := madeFrom_append_singleton.mpr ⟨_, h_made, h_run⟩
  down := by
    intro scripts m f sql s s' h_begins h_made h_f h_down h_text h_execute
    obtain ⟨before, h_before, h_run⟩ := madeFrom_append_singleton.mp h_made
    rw [h.undoes h_begins h_before h_run h_f h_down h_text h_execute]
    exact h_before

/-- A server on which scripts may fail, but do nothing else than on the other. -/
structure Postgres.Attempts (attempt pg : Postgres σ) : Prop where
  execute : ∀ {sql s s'}, attempt.execute sql s = some s' → pg.execute sql s = some s'

/-- An attempt that succeeds did what the server does. -/
theorem MigrationScript.run_of_attempt {attempt pg : Postgres σ} (h : attempt.Attempts pg)
    {m : MigrationScript} {s s' : σ} (h_run : m.run attempt s = some s') :
    m.run pg s = some s' := by
  obtain ⟨sql, h_text, h_execute⟩ := Option.bind_eq_some_iff.mp h_run
  exact Option.bind_eq_some_iff.mpr ⟨sql, h_text, h.execute h_execute⟩

namespace BuiltBy

variable {pg attempt : Postgres σ} {Made : List MigrationScript → σ → Prop}
  {scripts : List MigrationScript} {db db' : MigratedDb σ} {k : UnicodeTables}
  {files : List MigrationFile}

/-- Only rows and schema count. -/
theorem congr (h : BuiltBy Made scripts db) (h_rows : db'.rows = db.rows)
    (h_schema : db'.schema = db.schema) : BuiltBy Made scripts db' where
  rows := h_rows.trans h.rows
  schema := h_schema ▸ h.schema

/-- The history lists the versions of the scripts it was built by. -/
theorem versions (h : BuiltBy Made scripts db) :
    db.rows.map (·.version) = scripts.map (·.version) := by
  rw [h.rows, List.map_map]
  rfl

/-- The next script, and its row. -/
theorem migrate (h_kept : KeptBy k pg files Made) (h_attempt : attempt.Attempts pg)
    (h : BuiltBy Made scripts db) {m : MigrationScript} {sql : String}
    (h_text : m.file.text = some sql)
    (h_migrate : db.migrate attempt m sql = .ok db') :
    BuiltBy Made (scripts ++ [m]) db' := by
  unfold MigratedDb.migrate at h_migrate
  cases h_execute : attempt.execute sql db.schema with
  | none => rw [h_execute] at h_migrate; cases h_migrate
  | some schema =>
    rw [h_execute] at h_migrate
    dsimp only at h_migrate
    split_ifs at h_migrate
    cases h_migrate
    refine ⟨?_, ?_⟩
    · show db.rows ++ [m.row] = _
      rw [h.rows, List.map_append]
      rfl
    · have h_run : m.run attempt db.schema = some schema :=
        Option.bind_eq_some_iff.mpr ⟨sql, h_text, h_execute⟩
      exact h_kept.up h.schema (MigrationScript.run_of_attempt h_attempt h_run)

/-- A script that is not registered fails only by itself. -/
theorem run_eq_none_of_error (h : BuiltBy Made scripts db)
    {m : MigrationScript} (h_new : m.version ∉ scripts.map (·.version)) {sql : String}
    (h_text : m.file.text = some sql) {e : MigrationFault}
    (h_migrate : db.migrate attempt m sql = .error e) : m.run attempt db.schema = none := by
  unfold MigratedDb.migrate at h_migrate
  have h_run : m.run attempt db.schema = attempt.execute sql db.schema := by
    rw [MigrationScript.run, h_text]
    rfl
  rw [h_run]
  cases h_execute : attempt.execute sql db.schema with
  | none => rfl
  | some schema =>
    rw [h_execute] at h_migrate
    dsimp only at h_migrate
    split_ifs at h_migrate with h_any
    obtain ⟨r, h_r, h_version⟩ := List.any_eq_true.mp h_any
    rw [← h.versions] at h_new
    exact absurd (List.mem_map.mpr ⟨r, h_r, of_decide_eq_true h_version⟩) h_new

/-- The last script undone. -/
theorem revert (h_dir : SoundDirectory k files) (h_kept : KeptBy k pg files Made)
    (h_attempt : attempt.Attempts pg) {m : MigrationScript}
    (h_begins : scripts ++ [m] <+: k.candidates files) (h : BuiltBy Made (scripts ++ [m]) db)
    {f : MigrationFile} {sql : String} (h_f : f ∈ files)
    (h_down : k.isDownOf m.version f = true) (h_text : f.text = some sql)
    (h_revert : db.revert attempt m.version sql = .ok db') : BuiltBy Made scripts db' := by
  unfold MigratedDb.revert at h_revert
  cases h_execute : attempt.execute sql db.schema with
  | none => rw [h_execute] at h_revert; cases h_revert
  | some schema =>
    rw [h_execute] at h_revert
    cases h_revert
    refine ⟨?_, h_kept.down h_begins h.schema h_f h_down h_text (h_attempt.execute h_execute)⟩
    -- no other row has the version
    have h_distinct := h_dir.distinct.sublist (h_begins.sublist.map _)
    rw [List.map_append] at h_distinct
    have h_others : ∀ r ∈ scripts.map (·.row), r.version ≠ m.version := by
      intro r h_r h_version
      obtain ⟨n, h_n, rfl⟩ := List.mem_map.mp h_r
      exact List.disjoint_of_nodup_append h_distinct (List.mem_map_of_mem h_n)
        (List.mem_singleton.mpr h_version)
    show db.rows.filter _ = _
    rw [h.rows, List.map_append, List.filter_append,
      List.filter_eq_self.mpr fun r h_r => decide_eq_true (h_others r h_r)]
    simp

end BuiltBy

/-! ### A call -/

namespace DbConnection

variable {k : UnicodeTables} {pg attempt : Postgres σ} {files : List MigrationFile}
  {Made : List MigrationScript → σ → Prop} {scripts : List MigrationScript} {c c' : DbConnection σ}

/-- Both what is committed and what the connection sees come from the directory. -/
structure InLineage (k : UnicodeTables) (Made : List MigrationScript → σ → Prop)
    (files : List MigrationFile) (c : DbConnection σ) : Prop where
  durable : Lineage k Made files c.durable
  current : Lineage k Made files c.current

/-- The listing of the versions commits what was open. -/
structure Listed (attempt : Postgres σ) (Made : List MigrationScript → σ → Prop)
    (scripts : List MigrationScript) (applied : List String) (c c' : DbConnection σ) : Prop where
  autocommit : c'.autocommit = c.autocommit
  opened : c'.opened.isNone = c.autocommit
  durable : BuiltBy Made scripts c'.durable
  current : BuiltBy Made scripts c'.current
  versions : applied = attempt.orderBy (scripts.map (·.version))

/-- Reading the history lists the applied versions and commits nothing but the history
table. -/
theorem listed (attempt : Postgres σ) (h : BuiltBy Made scripts c.current) :
    Listed attempt Made scripts (c.initSchemaHistory.getAppliedMigrations attempt).2 c
      (c.initSchemaHistory.getAppliedMigrations attempt).1 := by
  have h_created : BuiltBy Made scripts c.current.createHistory := h.congr rfl rfl
  have h_again : BuiltBy Made scripts c.current.createHistory.createHistory :=
    h_created.congr rfl rfl
  -- the mode decides whether the `SELECT` is left in a transaction
  obtain ⟨autocommit, durable, opened⟩ := c
  cases autocommit with
  | true => exact ⟨rfl, rfl, h_again, h_again, h_again.versions ▸ rfl⟩
  | false => exact ⟨rfl, rfl, h_again, h_again, h_again.versions ▸ rfl⟩

/-- A transaction that fails leaves the connection as it was. -/
theorem transaction_error {body : MigratedDb σ → Except MigrationFault (MigratedDb σ)}
    {e : MigrationFault} (h : c.transaction body = (c', .error e)) :
    c' = c ∧ body c.current = .error e := by
  unfold transaction at h
  cases h_body : body c.current with
  | error e' =>
    rw [h_body] at h
    cases h
    exact ⟨rfl, rfl⟩
  | ok db =>
    rw [h_body] at h
    dsimp only at h
    split_ifs at h <;> cases h

/-- One that succeeds commits, unless it is a savepoint. -/
theorem transaction_ok {body : MigratedDb σ → Except MigrationFault (MigratedDb σ)}
    (h : c.transaction body = (c', .ok ())) :
    body c.current = .ok c'.current ∧ c'.autocommit = c.autocommit ∧
      c'.opened.isNone = c.opened.isNone ∧
      (c.opened.isNone = false → c'.durable = c.durable) := by
  unfold transaction at h
  cases h_body : body c.current with
  | error e => rw [h_body] at h; cases h
  | ok db =>
    rw [h_body] at h
    dsimp only at h
    obtain ⟨autocommit, durable, opened⟩ := c
    cases opened with
    | none => cases h; exact ⟨rfl, rfl, rfl, fun h_some => by cases h_some⟩
    | some view => cases h; exact ⟨rfl, rfl, rfl, fun _ => rfl⟩

/-- What the loop does with the scripts that are not registered: it runs some of them, and stops
before the others at one that fails. -/
structure Applied (attempt : Postgres σ) (Made : List MigrationScript → σ → Prop)
    (scripts todo : List MigrationScript) (c c' : DbConnection σ)
    (result : Except MigrationFault (List String))
    (new rest : List MigrationScript) : Prop where
  split : todo = new ++ rest
  current : BuiltBy Made (scripts ++ new) c'.current
  durable : c.opened.isNone = false → c'.durable = c.durable
  opened : c'.opened.isNone = c.opened.isNone
  finished : ∀ {versions}, result = .ok versions →
    rest = [] ∧ versions = new.map (·.version)
  stopped : ∀ {e}, result = .error e →
    ∃ m tail, rest = m :: tail ∧ m.run attempt c'.current.schema = none

/-- Scripts whose version is in the history are skipped. -/
theorem applyPending_of_applied {applied : List String} {older rest : List MigrationScript}
    (h : ∀ m ∈ older, m.version ∈ applied) (c : DbConnection σ) :
    applyPending attempt applied (older ++ rest) c = applyPending attempt applied rest c := by
  induction older with
  | nil => rfl
  | cons m older ih =>
    rw [List.cons_append, applyPending, if_pos (h m List.mem_cons_self)]
    exact ih fun n h_n => h n (List.mem_cons_of_mem _ h_n)

/-- The loop over the pending scripts extends the history by a prefix of them, commits each
before the next, and stops at the first that fails. -/
theorem applyPending_applied (h_kept : KeptBy k pg files Made)
    (h_attempt : attempt.Attempts pg) {applied : List String}
    {todo : List MigrationScript} (h_built : BuiltBy Made scripts c.current)
    (h_new : ∀ m ∈ todo, m.version ∉ applied)
    (h_distinct : ((scripts ++ todo).map (·.version)).Nodup) :
    ∃ new rest, Applied attempt Made scripts todo c
      (applyPending attempt applied todo c).1 (applyPending attempt applied todo c).2 new rest := by
  -- on the scripts that are still to run, with those that ran
  induction todo generalizing scripts c with
  | nil =>
    refine ⟨[], [], rfl, ?_, fun _ => rfl, rfl, ?_, fun h => by cases h⟩
    · rwa [List.append_nil]
    · intro versions h
      cases h
      exact ⟨rfl, rfl⟩
  | cons m todo ih =>
    rw [applyPending, if_neg (h_new m List.mem_cons_self)]
    -- the loop ends here if the script cannot be read or fails
    have h_stop : ∀ e, m.run attempt c.current.schema = none →
        Applied attempt Made scripts (m :: todo) c c (.error e) [] (m :: todo) := fun e h_run =>
      { split := rfl
        current := by rwa [List.append_nil]
        durable := fun _ => rfl
        opened := rfl
        finished := fun h => by cases h
        stopped := fun _ => ⟨m, todo, rfl, h_run⟩ }
    cases h_text : m.file.text with
    | none =>
      refine ⟨[], m :: todo, h_stop _ ?_⟩
      rw [MigrationScript.run, h_text]
      rfl
    | some sql =>
      -- the next script runs in a transaction of its own
      have h_fresh : m.version ∉ scripts.map (·.version) := by
        rw [List.map_append, List.map_cons] at h_distinct
        exact fun h_mem => List.disjoint_of_nodup_append h_distinct h_mem List.mem_cons_self
      rcases h_result : c.transaction (MigratedDb.migrate attempt m sql) with ⟨c₁, e | ⟨⟩⟩
      · -- rolled back: the loop ends, with the error
        obtain ⟨rfl, h_body⟩ := transaction_error h_result
        refine ⟨[], m :: todo, ?_⟩
        dsimp only
        rw [h_result]
        exact h_stop e (h_built.run_eq_none_of_error h_fresh h_text h_body)
      · -- committed: the rest of the loop goes on from there
        obtain ⟨h_body, _, h_opened, h_durable⟩ := transaction_ok h_result
        obtain ⟨new, rest, h_rest⟩ := ih (h_built.migrate h_kept h_attempt h_text h_body)
          (fun n h_n => h_new n (List.mem_cons_of_mem _ h_n))
          (by rwa [List.append_assoc])
        refine ⟨m :: new, rest, ?_⟩
        dsimp only
        rw [h_result]
        exact
          { split := by rw [h_rest.split]; rfl
            current := by
              rw [List.append_cons]
              exact h_rest.current
            durable := fun h_some =>
              (h_rest.durable (h_opened.trans h_some)).trans (h_durable h_some)
            opened := h_rest.opened.trans h_opened
            finished := by
              intro versions h_ok
              obtain ⟨versions', h_ok', rfl⟩ := map_eq_ok_iff.mp h_ok
              obtain ⟨h_nil, rfl⟩ := h_rest.finished h_ok'
              exact ⟨h_nil, rfl⟩
            stopped := fun h_error => h_rest.stopped (map_eq_error_iff.mp h_error) }

/-- Both sides of a connection are built by one prefix of the directory's scripts. -/
theorem inLineage_of_builtBy (h_begins : scripts <+: k.candidates files)
    (h_durable : BuiltBy Made scripts c.durable)
    (h_current : BuiltBy Made scripts c.current) : c.InLineage k Made files :=
  ⟨⟨scripts, h_begins, h_durable⟩, ⟨scripts, h_begins, h_current⟩⟩

/-- `apply_all_migrations` reads the history once and walks through the candidates. -/
theorem applyAllMigrations_eq (c : DbConnection σ) :
    c.applyAllMigrations k attempt (some files) =
      applyPending attempt (c.initSchemaHistory.getAppliedMigrations attempt).2
        (k.candidates files) (c.initSchemaHistory.getAppliedMigrations attempt).1 := rfl

/-- **A call of `apply_all_migrations`** on a database that an initial segment of the directory has
made runs scripts of the rest, in order. -/
theorem applyAllMigrations_applied (h_dir : SoundDirectory k files)
    (h_kept : KeptBy k pg files Made) (h_attempt : attempt.Attempts pg)
    (h_begins : scripts <+: k.candidates files)
    (h_built : BuiltBy Made scripts c.current) :
    ∃ listed todo new rest, k.candidates files = scripts ++ todo ∧
      listed.autocommit = c.autocommit ∧ listed.opened.isNone = c.autocommit ∧
      BuiltBy Made scripts listed.durable ∧
      Applied attempt Made scripts todo listed
        (c.applyAllMigrations k attempt (some files)).1
        (c.applyAllMigrations k attempt (some files)).2 new rest := by
  obtain ⟨todo, h_split⟩ := h_begins
  have h_listed := listed attempt h_built
  have h_distinct : ((scripts ++ todo).map (·.version)).Nodup := h_split ▸ h_dir.distinct
  have h_perm : (c.initSchemaHistory.getAppliedMigrations attempt).2.Perm
      (scripts.map (·.version)) := h_listed.versions ▸ attempt.orderBy_perm _
  have h_older : ∀ m ∈ scripts,
      m.version ∈ (c.initSchemaHistory.getAppliedMigrations attempt).2 := fun m h_m =>
    h_perm.mem_iff.mpr (List.mem_map_of_mem h_m)
  have h_new : ∀ m ∈ todo,
      m.version ∉ (c.initSchemaHistory.getAppliedMigrations attempt).2 := by
    intro m h_m h_mem
    rw [List.map_append] at h_distinct
    exact List.disjoint_of_nodup_append h_distinct (h_perm.mem_iff.mp h_mem)
      (List.mem_map_of_mem h_m)
  obtain ⟨new, rest, h_applied⟩ :=
    applyPending_applied h_kept h_attempt h_listed.current h_new h_distinct
  refine ⟨_, todo, new, rest, h_split.symm, h_listed.autocommit, h_listed.opened,
    h_listed.durable, ?_⟩
  rw [applyAllMigrations_eq, ← h_split, applyPending_of_applied h_older]
  exact h_applied

/-- A connection without an open transaction sees what is committed. -/
theorem current_eq_durable (h : c.opened.isNone = true) : c.current = c.durable := by
  rw [current, Option.isNone_iff_eq_none.mp h]
  rfl

/-- A deploy, finished or failed, leaves the database at a prefix of the directory's
versions. -/
theorem InLineage.applyAllMigrations (h_dir : SoundDirectory k files)
    (h_kept : KeptBy k pg files Made) (h_attempt : attempt.Attempts pg)
    (h : c.InLineage k Made files)
    {dir : Option (List MigrationFile)} (h_files : ∀ files' ∈ dir, files' = files) :
    (c.applyAllMigrations k attempt dir).1.InLineage k Made files := by
  obtain ⟨scripts, h_begins, h_built⟩ := h.current
  cases dir with
  | none =>
    have h_listed := listed attempt h_built
    exact inLineage_of_builtBy h_begins h_listed.durable h_listed.current
  | some files' =>
    obtain rfl := h_files files' rfl
    obtain ⟨listed, todo, new, rest, h_split, _, _, h_durable, h_applied⟩ :=
      applyAllMigrations_applied h_dir h_kept h_attempt h_begins h_built
    have h_current :
        Lineage k Made files' (c.applyAllMigrations k attempt (some files')).1.current := by
      refine ⟨scripts ++ new, ⟨rest, ?_⟩, h_applied.current⟩
      rw [h_split, h_applied.split, List.append_assoc]
    refine ⟨?_, h_current⟩
    cases h_opened : listed.opened.isNone with
    | true =>
      rw [← current_eq_durable (h_applied.opened.trans h_opened)]
      exact h_current
    | false =>
      rw [h_applied.durable h_opened]
      exact ⟨scripts, h_begins, h_durable⟩

/-- The last version in the order of the database is that of the last script. -/
theorem Listed.getLast? (h_dir : SoundDirectory k files)
    (h_begins : scripts <+: k.candidates files) {applied : List String}
    (h : Listed attempt Made scripts applied c c') :
    applied.getLast? = scripts.getLast?.map (·.version) := by
  have h_order : (scripts.map (·.version)).Pairwise (· ≤ ·) := by
    refine List.Pairwise.sublist (h_begins.sublist.map _) (List.pairwise_map.mpr ?_)
    exact List.pairwise_insertionSort
      (fun a b : MigrationScript => a.version ≤ b.version) (files.filterMap k.candidate?)
  have h_digits : ∀ v ∈ scripts.map (·.version), v.toList.all Char.isDigit = true := by
    intro v h_v
    obtain ⟨m, h_m, rfl⟩ := List.mem_map.mp h_v
    exact h_dir.digits m (h_begins.subset h_m)
  rw [h.versions, (attempt.orderBy_perm _).eq_of_pairwise' (attempt.orderBy_digits _ h_digits)
    h_order, List.getLast?_map]

/-- A rollback takes the last version off, or leaves the database as it was. -/
theorem InLineage.rollbackLastMigration (h_dir : SoundDirectory k files)
    (h_kept : KeptBy k pg files Made) (h_attempt : attempt.Attempts pg)
    (h : c.InLineage k Made files)
    {dir : Option (List MigrationFile)} (h_files : ∀ files' ∈ dir, files' = files) :
    (c.rollbackLastMigration k attempt dir).1.InLineage k Made files := by
  obtain ⟨scripts, h_begins, h_built⟩ := h.current
  have h_listed := listed attempt h_built
  have h_same := inLineage_of_builtBy h_begins h_listed.durable h_listed.current
  unfold DbConnection.rollbackLastMigration
  dsimp only
  -- a call that raises has only listed the versions
  cases h_last : (c.initSchemaHistory.getAppliedMigrations attempt).2.getLast? with
  | none => exact h_same
  | some last =>
    cases dir with
    | none => exact h_same
    | some files' =>
      obtain rfl := h_files files' rfl
      dsimp only
      -- only the last version is rolled back, by its own script
      cases h_find : files'.find? (k.isDownOf last) with
      | none => exact h_same
      | some f =>
        dsimp only
        cases h_text : f.text with
        | none => exact h_same
        | some sql =>
          dsimp only
          rcases h_result : (c.initSchemaHistory.getAppliedMigrations attempt).1.transaction
            (MigratedDb.revert attempt last sql) with ⟨c', e | ⟨⟩⟩
          · obtain ⟨rfl, _⟩ := transaction_error h_result
            exact h_same
          · -- the script and the row of the version commit together
            obtain ⟨h_body, _, h_opened, h_durable⟩ := transaction_ok h_result
            rw [h_listed.getLast? h_dir h_begins] at h_last
            obtain ⟨m, h_m, rfl⟩ := Option.map_eq_some_iff.mp h_last
            obtain ⟨before, rfl⟩ := List.getLast?_eq_some_iff.mp h_m
            have h_reverted := h_listed.current.revert h_dir h_kept h_attempt h_begins
              (List.mem_of_find?_eq_some h_find) (List.find?_some h_find) h_text h_body
            have h_current : Lineage k Made files' c'.current :=
              ⟨before, (List.prefix_append before [m]).trans h_begins, h_reverted⟩
            refine ⟨?_, h_current⟩
            show Lineage k Made files' c'.durable
            -- autocommit writes at once, an open transaction not
            cases h_none : c'.opened.isNone with
            | true =>
              rw [← current_eq_durable h_none]
              exact h_current
            | false =>
              rw [h_durable (h_opened.symm.trans h_none)]
              exact h_same.durable

/-- A call that raises nothing runs all that is not registered, in order. -/
theorem applyAllMigrations_finished (h_dir : SoundDirectory k files)
    (h_kept : KeptBy k pg files Made) (h_attempt : attempt.Attempts pg)
    (h_begins : scripts <+: k.candidates files) (h_built : BuiltBy Made scripts c.current)
    {versions : List String}
    (h_ok : (c.applyAllMigrations k attempt (some files)).2 = .ok versions) :
    versions = ((k.candidates files).map (·.version)).filter
        (fun v => v ∉ c.current.rows.map (·.version)) ∧
      BuiltBy Made (k.candidates files) (c.applyAllMigrations k attempt (some files)).1.current ∧
      (c.applyAllMigrations k attempt (some files)).1.opened.isNone = c.autocommit := by
  obtain ⟨listed, todo, new, rest, h_split, _, h_mode, _, h_applied⟩ :=
    applyAllMigrations_applied h_dir h_kept h_attempt h_begins h_built
  obtain ⟨rfl, rfl⟩ := h_applied.finished h_ok
  obtain rfl : todo = new := h_applied.split.trans (List.append_nil new)
  refine ⟨?_, h_split ▸ h_applied.current, h_applied.opened.trans h_mode⟩
  have h_distinct := h_dir.distinct
  rw [h_split, List.map_append] at h_distinct
  have h_older : ((scripts.map (·.version)).filter
      fun v => v ∉ scripts.map (·.version)) = [] :=
    List.filter_eq_nil_iff.mpr fun v h_v => by simpa using List.mem_map.mp h_v
  have h_newer : ((todo.map (·.version)).filter
      fun v => v ∉ scripts.map (·.version)) = todo.map (·.version) :=
    List.filter_eq_self.mpr fun v h_v => decide_eq_true fun h_mem =>
      List.disjoint_of_nodup_append h_distinct h_mem h_v
  rw [h_split, List.map_append, List.filter_append, h_built.versions, h_older, h_newer]
  rfl

/-- Where all is registered, a call runs no script and so raises nothing. -/
theorem applyAllMigrations_again (h_dir : SoundDirectory k files)
    (h_kept : KeptBy k pg files Made) (h_attempt : attempt.Attempts pg)
    (h_built : BuiltBy Made (k.candidates files) c.current) :
    (c.applyAllMigrations k attempt (some files)).2 = .ok [] ∧
      BuiltBy Made (k.candidates files)
        (c.applyAllMigrations k attempt (some files)).1.current := by
  obtain ⟨listed, todo, new, rest, h_split, _, _, _, h_applied⟩ :=
    applyAllMigrations_applied h_dir h_kept h_attempt List.prefix_rfl h_built
  obtain rfl : todo = [] := List.append_right_eq_self.mp h_split.symm
  obtain ⟨rfl, rfl⟩ := List.append_eq_nil_iff.mp h_applied.split.symm
  refine ⟨?_, List.append_nil (k.candidates files) ▸ h_applied.current⟩
  cases h_result : (c.applyAllMigrations k attempt (some files)).2 with
  | ok versions => rw [(h_applied.finished h_result).2]; rfl
  | error e =>
    obtain ⟨m, tail, h_nil, _⟩ := h_applied.stopped h_result
    cases h_nil

/-- A call on a server on which the whole directory runs raises nothing, if the schema is what the
registered scripts make. -/
theorem applyAllMigrations_works {empty : σ} (h_dir : SoundDirectory k files)
    (h_kept : KeptBy k pg files (MadeFrom pg empty)) (h_begins : scripts <+: k.candidates files)
    (h_built : BuiltBy (MadeFrom pg empty) scripts c.current)
    (h_works : ((k.candidates files).foldlM (MigrationScript.run pg) empty).isSome = true) :
    ∃ versions, (c.applyAllMigrations k pg (some files)).2 = .ok versions := by
  obtain ⟨listed, todo, new, rest, h_split, _, _, _, h_applied⟩ :=
    applyAllMigrations_applied h_dir h_kept ⟨fun h => h⟩ h_begins h_built
  cases h_result : (c.applyAllMigrations k pg (some files)).2 with
  | ok versions => exact ⟨versions, rfl⟩
  | error e =>
    -- the script that fails would fail in the directory as a whole
    obtain ⟨m, tail, rfl, h_run⟩ := h_applied.stopped h_result
    have h_whole : k.candidates files = (scripts ++ new) ++ m :: tail := by
      rw [h_split, h_applied.split, List.append_assoc]
    have h_made : (scripts ++ new).foldlM (MigrationScript.run pg) empty = some _ :=
      h_applied.current.schema
    rw [h_whole, List.foldlM_append, h_made] at h_works
    change ((m :: tail).foldlM (MigrationScript.run pg) _).isSome = true at h_works
    rw [List.foldlM_cons, h_run] at h_works
    cases h_works

end DbConnection

/-! ### Runs -/

/-- The directory of the release that is deployed, and the connection. -/
structure MigrationRun (σ : Type) where
  files : List MigrationFile
  connection : DbConnection σ

namespace MigrationRun

variable {k : UnicodeTables} {pg : Postgres σ} {empty : σ}
  {Deployable : List MigrationFile → Prop}

/-- A new database. -/
structure Initial (Deployable : List MigrationFile → Prop) (empty : σ) (r : MigrationRun σ) :
    Prop where
  files : Deployable r.files
  rows : r.connection.durable.rows = []
  schema : r.connection.durable.schema = empty
  opened : r.connection.opened = none

/-- A call, in which any script may fail and the directory may be missing; what the caller does
with the connection afterwards; and a release, which adds versions after those that exist. The
directories that are deployed are a parameter. -/
inductive Step (k : UnicodeTables) (pg : Postgres σ) (Deployable : List MigrationFile → Prop) :
    MigrationRun σ → MigrationRun σ → Prop
  | applyAll {r : MigrationRun σ} {attempt : Postgres σ} {dir : Option (List MigrationFile)}
      (h_attempt : attempt.Attempts pg) (h_dir : ∀ files ∈ dir, files = r.files) :
      Step k pg Deployable r
        { r with connection := (r.connection.applyAllMigrations k attempt dir).1 }
  | rollbackLast {r : MigrationRun σ} {attempt : Postgres σ} {dir : Option (List MigrationFile)}
      (h_attempt : attempt.Attempts pg) (h_dir : ∀ files ∈ dir, files = r.files) :
      Step k pg Deployable r
        { r with connection := (r.connection.rollbackLastMigration k attempt dir).1 }
  | commit {r : MigrationRun σ} :
      Step k pg Deployable r { r with connection := r.connection.commit }
  | reopen {r : MigrationRun σ} (autocommit : Bool) :
      Step k pg Deployable r { r with connection := { r.connection.rollback with autocommit } }
  | release {r : MigrationRun σ} {files : List MigrationFile} (h_files : Deployable files)
      (h_later : k.candidates r.files <+: k.candidates files) :
      Step k pg Deployable r { r with files }

/-- The invariant of a run. -/
structure Sound (k : UnicodeTables) (Deployable : List MigrationFile → Prop)
    (Made : List MigrationScript → σ → Prop) (r : MigrationRun σ) : Prop where
  files : Deployable r.files
  connection : r.connection.InLineage k Made r.files

section Invariant

variable {Made : List MigrationScript → σ → Prop}
  (h_dirs : ∀ files, Deployable files → SoundDirectory k files)
  (h_kept : ∀ files, Deployable files → KeptBy k pg files Made)

/-- An empty database is built by no script. -/
theorem Initial.sound {r : MigrationRun σ} (h_empty : Made [] empty)
    (h : Initial Deployable empty r) : Sound k Deployable Made r := by
  have h_durable : BuiltBy Made [] r.connection.durable := ⟨h.rows, h.schema ▸ h_empty⟩
  have h_current : r.connection.current = r.connection.durable :=
    DbConnection.current_eq_durable (by rw [h.opened]; rfl)
  exact ⟨h.files,
    DbConnection.inLineage_of_builtBy List.nil_prefix h_durable (h_current ▸ h_durable)⟩

include h_dirs h_kept

/-- Every step keeps both views of the database in the lineage of the directory. -/
theorem Sound.step {r r' : MigrationRun σ} (h : Sound k Deployable Made r)
    (h_step : Step k pg Deployable r r') : Sound k Deployable Made r' := by
  have h_dir := h_dirs _ h.files
  have h_keeps := h_kept _ h.files
  cases h_step with
  | applyAll h_attempt h_files =>
    exact ⟨h.files, h.connection.applyAllMigrations h_dir h_keeps h_attempt h_files⟩
  | rollbackLast h_attempt h_files =>
    exact ⟨h.files, h.connection.rollbackLastMigration h_dir h_keeps h_attempt h_files⟩
  | commit => exact ⟨h.files, h.connection.current, h.connection.current⟩
  | reopen autocommit => exact ⟨h.files, h.connection.durable, h.connection.durable⟩
  | release h_files h_later =>
    have h_lineage : ∀ {db}, Lineage k Made r.files db → Lineage k Made _ db :=
      fun ⟨scripts, h_begins, h_built⟩ => ⟨scripts, h_begins.trans h_later, h_built⟩
    exact ⟨h_files, h_lineage h.connection.durable, h_lineage h.connection.current⟩

/-- The invariant of all runs of the migration command. -/
theorem sound (h_empty : Made [] empty) {r : MigrationRun σ}
    (h : Reachable (Initial Deployable empty) (Step k pg Deployable) r) :
    Sound k Deployable Made r :=
  h.invariant (fun _ h₀ => h₀.sound h_empty) fun _ _ h_sound h_step =>
    h_sound.step h_dirs h_kept h_step

end Invariant

/-- A server whose schema is the list of its tables. -/
def tableServer : Postgres (List String) where
  execute sql tables :=
    if "CREATE TABLE ".toList <+: sql.toList then
      let table := String.ofList (sql.toList.drop 13)
      if table ∈ tables then none else some (table :: tables)
    else if "DROP TABLE IF EXISTS ".toList <+: sql.toList then
      some (tables.erase (String.ofList (sql.toList.drop 21)))
    else none
  orderBy l := l.insertionSort (· ≤ ·)
  orderBy_perm := List.perm_insertionSort _
  orderBy_digits l _ := List.pairwise_insertionSort _ l

/-- The server while the second script below fails. -/
def brokenServer : Postgres (List String) :=
  { tableServer with
    execute := fun sql tables =>
      if sql = "CREATE TABLE findings" then none else tableServer.execute sql tables }

/-- Two versions, listed in another order. -/
def twoVersions : List MigrationFile :=
  [{ name := "002_findings.sql", text := some "CREATE TABLE findings" },
   { name := "001_initial_down.sql", text := some "DROP TABLE IF EXISTS runs" },
   { name := "001_initial.sql", text := some "CREATE TABLE runs" },
   { name := "002_findings_down.sql", text := some "DROP TABLE IF EXISTS findings" }]

/-- A new database, in autocommit mode. -/
def newDatabase : MigrationRun (List String) where
  files := twoVersions
  connection := { autocommit := true, durable := { history := none, schema := [] } }

/-- The call that the second script breaks. -/
def brokenRun : MigrationRun (List String) :=
  { newDatabase with
    connection := (newDatabase.connection.applyAllMigrations UnicodeTables.asciiTables brokenServer
      (some twoVersions)).1 }

/-- The next call, in which it runs. -/
def repairedRun : MigrationRun (List String) :=
  { brokenRun with
    connection := (brokenRun.connection.applyAllMigrations UnicodeTables.asciiTables tableServer
      (some twoVersions)).1 }

/-- The second version taken back. -/
def rolledBackRun : MigrationRun (List String) :=
  { repairedRun with
    connection := (repairedRun.connection.rollbackLastMigration UnicodeTables.asciiTables
      tableServer (some twoVersions)).1 }

theorem candidates_twoVersions : UnicodeTables.asciiTables.candidates twoVersions =
    [{ version := "001", name := "initial"
       file := { name := "001_initial.sql", text := some "CREATE TABLE runs" } },
     { version := "002", name := "findings"
       file := { name := "002_findings.sql", text := some "CREATE TABLE findings" } }] := by
  decide +kernel

theorem soundDirectory_twoVersions : SoundDirectory UnicodeTables.asciiTables twoVersions where
  digits := by
    rw [candidates_twoVersions]
    decide +kernel
  distinct := by
    rw [candidates_twoVersions]
    decide +kernel

/-- Each down script of the sample directory drops the table its up script made. -/
theorem undoesVersions_twoVersions :
    UndoesVersions UnicodeTables.asciiTables tableServer [] twoVersions where
  undoes := by
    intro scripts m f down s s' s'' h_begins _ h_run h_f h_down h_text h_execute
    rw [candidates_twoVersions] at h_begins
    have h_m := h_begins.subset (List.mem_append_right scripts (List.mem_singleton_self m))
    have h_create : ∀ {table up}, m.file.text = some up →
        (∀ t, tableServer.execute up t = if table ∈ t then none else some (table :: t)) →
        (∀ t, tableServer.execute down t = some (t.erase table)) → s'' = s := by
      intro table up h_up h_creates h_drops
      rw [MigrationScript.run, h_up] at h_run
      change tableServer.execute up s = some s' at h_run
      rw [h_creates] at h_run
      split_ifs at h_run
      cases h_run
      rw [h_drops, List.erase_cons_head] at h_execute
      exact (Option.some.inj h_execute).symm
    have h_only : ∀ f ∈ twoVersions, ∀ v ∈ ["001", "002"],
        UnicodeTables.asciiTables.isDownOf v f = true → f.text = some
          (if v = "001" then "DROP TABLE IF EXISTS runs"
            else "DROP TABLE IF EXISTS findings") := by
      decide +kernel
    rcases List.mem_pair.mp h_m with rfl | rfl
    · have h_same := h_only f h_f "001" (by decide) h_down
      rw [h_text] at h_same
      obtain rfl := Option.some.inj h_same
      exact h_create rfl (fun t => rfl) (fun t => rfl)
    · have h_same := h_only f h_f "002" (by decide) h_down
      rw [h_text] at h_same
      obtain rfl := Option.some.inj h_same
      exact h_create rfl (fun t => rfl) (fun t => rfl)

/-- Only this directory is deployed. -/
def IsTwoVersions (files : List MigrationFile) : Prop := files = twoVersions

theorem soundDirectory_of_isTwoVersions (files : List MigrationFile) (h : IsTwoVersions files) :
    SoundDirectory UnicodeTables.asciiTables files := by
  rw [h]
  exact soundDirectory_twoVersions

theorem undoesVersions_of_isTwoVersions (files : List MigrationFile) (h : IsTwoVersions files) :
    UndoesVersions UnicodeTables.asciiTables tableServer [] files := by
  rw [h]
  exact undoesVersions_twoVersions

theorem attempts_brokenServer : brokenServer.Attempts tableServer := by
  refine ⟨fun {sql s s'} h => ?_⟩
  change (if sql = "CREATE TABLE findings" then none else _) = _ at h
  split_ifs at h
  exact h

theorem reachable_brokenRun :
    Reachable (Initial IsTwoVersions [])
      (Step UnicodeTables.asciiTables tableServer IsTwoVersions) brokenRun := by
  have h_initial : Initial IsTwoVersions [] newDatabase := ⟨rfl, rfl, rfl, rfl⟩
  exact (Reachable.of_initial h_initial).next
    (.applyAll attempts_brokenServer fun files h => (Option.some.inj h).symm)

theorem reachable_rolledBackRun :
    Reachable (Initial IsTwoVersions [])
      (Step UnicodeTables.asciiTables tableServer IsTwoVersions) rolledBackRun := by
  have h_repaired : Reachable (Initial IsTwoVersions [])
      (Step UnicodeTables.asciiTables tableServer IsTwoVersions) repairedRun :=
    reachable_brokenRun.next
      (.applyAll ⟨fun h => h⟩ fun files h => (Option.some.inj h).symm)
  exact h_repaired.next (.rollbackLast ⟨fun h => h⟩ fun files h => (Option.some.inj h).symm)

end MigrationRun

end DqScoring
