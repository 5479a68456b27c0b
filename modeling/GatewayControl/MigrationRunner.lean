import GatewayControl.Checks
import GatewayControl.Programs
import GatewayControl.Table
import GatewayControl.Text
import Mathlib.Data.List.Sort

/-!
The migration runner: it reads the migrations of a release, checks them against the ones the
database has recorded, and runs those that are missing, each in a transaction of its own.

The digest is a parameter. Of a migration's SQL the database keeps the text. The names that
pass the pattern differ within their first three characters, which are digits, so every
collation orders them alike.
-/

namespace GatewayControl.MigrationRunner

open Checks Programs

/-! ### Migrations -/

structure Migration where
  name : String
  sql : String
  checksum : String
  deriving DecidableEq, Repr

/-- What a run reads of a row of `schema_migrations`. -/
structure AppliedMigration where
  name : String
  checksum : Option String
  deriving DecidableEq, Repr

/-- `HISTORICAL_MIGRATION_CHECKSUMS`. -/
def historicalMigrationChecksums : List (String × String) :=
  [("001_initial.sql", "800d8d999c6d4c7d9dbc33f0de37d0c36f7720ecdf384b28e55268fbf2ea3965"),
    ("002_assign_connectors_to_agents.sql",
      "853509dcf5f4e74cfcce211b26a88f56d66ce4355f3b10542bd970574141e585"),
    ("003_managed_stacks_and_routes.sql",
      "d2bd51a8609fe5afeb44dd6ecea535e71ba6da7b766e1da8069f2b2d83290fc3"),
    ("004_operations_observability_backups.sql",
      "0f7730d360c63e0b5e11d9f08f16841f0e2e5081d18df20e0f36e04001f4d9eb"),
    ("005_cloudflare_management.sql",
      "2ce7613b553f1489406550af0f0e3f697f9bbd04a54ed2c1da1c2de7e49ca88a"),
    ("006_agent_archival.sql",
      "79f51386d8f6fbe7ecd192c9ec31aa3b422a9a6ac9e335860104b8974ff1d22d"),
    ("007_agent_connector_health.sql",
      "404bdc2596c71309702ca9becd91a7b364edf678556b86995f84b0606fb54446"),
    ("008_postgres_backup_config.sql",
      "6dda0acdf31a3f10fa488bc1fbd8e60818e412f6965779261470c3702a9db6e5"),
    ("009_system_recovery.sql",
      "0907ac73ac867a68751aa543eed5dcd5abbeae8d5809200b4fa80b47e7ce23ee"),
    ("010_system_restore_staging.sql",
      "8cde57df53d64862cb6cb5cc83e5be5a04680396fd9a1c5cdb51bbe915ebcc5a"),
    ("011_runtime_control.sql",
      "140e14f9108728ff9c4548cf69d68adeb8f7691ac3d052be70e22fd00e9c9e01"),
    ("012_domain_access.sql",
      "511a53d77b90d5dd83e19ee6a10d2a5379147f486b8956024e053a1238d71780")]

/-- The reviewed checksum of a migration that was recorded without one. -/
def historical (name : String) : Option String := historicalMigrationChecksums.lookup name

/-! ### The files of a release -/

def isWord (cs : List Char) : Bool := cs ≠ [] && cs.all Text.isLowerOrDigit

/-- `MIGRATION_NAME_PATTERN`: the sequence number of a name that matches. -/
def sequenceOf (name : String) : Option (List Char) :=
  if name.toList.drop (name.toList.length - 4) = ".sql".toList then
    match (name.toList.take (name.toList.length - 4)).splitOn '_' with
    | digits :: word :: words =>
        if digits.length = 3 ∧ digits.all (·.isDigit) ∧ isWord word ∧ words.all isWord then
          some digits
        else none
    | _ => none
  else none

/-- `/\.sql$/i`. -/
def isSql (name : String) : Bool := ".sql".toList.isSuffixOf (Text.asciiLower name)

/-- `padStart(3, '0')` of the place of a file. -/
def expectedSequence (index : ℕ) : List Char :=
  List.leftpad 3 '0' (Nat.toDigits 10 (index + 1))

/-- The names from place `index` on, the sequence numbers before them being `seen`. -/
def checkNames : ℕ → List (List Char) → List String → Except String Unit
  | _, _, [] => .ok ()
  | index, seen, name :: names => do
      let some digits := sequenceOf name
        | throw ("Invalid migration filename: " ++ name ++ ". Expected NNN_description.sql.")
      require (digits ∉ seen) ("Duplicate migration sequence: " ++ String.ofList digits ++ ".")
      require (digits = expectedSequence index)
        ("Migration sequences must be contiguous from 001; expected " ++
          String.ofList (expectedSequence index) ++ ", found " ++ String.ofList digits ++ ".")
      checkNames (index + 1) (digits :: seen) names

/-- A file of the migrations directory, as the release reads it. -/
def migrationOf (sha256 : String → String) (file : String × String) : Migration :=
  ⟨file.1, file.2, sha256 file.2⟩

/-- The migrations of a release, from the names and contents of the files there. -/
def discoverMigrations (sha256 : String → String) (directory : List (String × String)) :
    Except String (List Migration) := do
  let files := (directory.filter (isSql ·.1)).insertionSort (·.1 ≤ ·.1)
  checkNames 0 [] (files.map (·.1))
  return files.map (migrationOf sha256)

/-! ### The check -/

def checkChecksum (migration : Migration) (row : AppliedMigration) : Except String Unit :=
  match row.checksum with
  | none =>
      match historical row.name with
      | none =>
          throw ("No reviewed historical checksum exists for migration: " ++ row.name ++ ".")
      | some baseline =>
          require (migration.checksum = baseline) ("Historical migration checksum mismatch: " ++
            row.name ++ ". Refusing to baseline edited content.")
  | some checksum =>
      require (checksum = migration.checksum) ("Migration checksum mismatch: " ++ row.name ++
        ". Applied migrations must never be edited.")

/-- The rows from place `index` on. -/
def validateFrom (migrations : List Migration) : ℕ → List AppliedMigration → Except String Unit
  | _, [] => .ok ()
  | index, row :: rows => do
      let some migration := migrations.find? (·.name = row.name)
        | throw ("Applied migration is missing from the release: " ++ row.name ++ ".")
      require ((migrations[index]?).map Migration.name = some row.name)
        ("Applied migrations must form a contiguous prefix; found a gap before " ++ row.name ++
          ".")
      checkChecksum migration row
      validateFrom migrations (index + 1) rows

def validateAppliedMigrations (migrations : List Migration) (applied : List AppliedMigration) :
    Except String Unit :=
  validateFrom migrations 0 applied

/-! ### The database -/

/-- A row of `schema_migrations`. -/
structure SchemaMigration where
  name : String
  appliedAt : ℤ
  checksum : Option String
  deriving DecidableEq, Repr

/-- `ORDER BY applied_at, name`. -/
def SchemaMigration.before (r r' : SchemaMigration) : Prop :=
  r.appliedAt < r'.appliedAt ∨ r.appliedAt = r'.appliedAt ∧ r.name ≤ r'.name

instance (r r' : SchemaMigration) : Decidable (r.before r') := by
  unfold SchemaMigration.before
  infer_instance

def SchemaMigration.applied (r : SchemaMigration) : AppliedMigration := ⟨r.name, r.checksum⟩

/-- A transaction: when it began, the SQL it has run and the row it has inserted. -/
structure Transaction where
  startedAt : ℤ
  executed : List String
  inserted : List SchemaMigration
  deriving DecidableEq, Repr

abbrev Rows := Table SchemaMigration String SchemaMigration.name

/-- The database: its clock, the recorded migrations, the SQL that has been committed, and
the transaction that is open. The release that ran last is kept for the statements only. -/
structure Database where
  clock : ℤ
  rows : Rows
  executed : List String
  transaction : Option Transaction
  release : List Migration

/-- `SELECT name, checksum FROM schema_migrations ORDER BY applied_at, name`. -/
def Database.selectApplied (d : Database) : List AppliedMigration :=
  (d.rows.rows.insertionSort SchemaMigration.before).map SchemaMigration.applied

def SchemaMigration.fill (checksum : String) (r : SchemaMigration) : SchemaMigration :=
  { r with checksum := some checksum }

def needsBaseline (name : String) (r : SchemaMigration) : Bool :=
  r.name = name ∧ r.checksum = none

/-- `UPDATE schema_migrations SET checksum = $2 WHERE name = $1 AND checksum IS NULL`. -/
def Database.baseline (d : Database) (name checksum : String) : Database :=
  let rows := d.rows.update (needsBaseline name) (SchemaMigration.fill checksum) fun _ => rfl
  { d with rows := rows }

/-- `COMMIT`; `none` when there is no transaction or its row is a duplicate. -/
def Database.commit (d : Database) : Option Database := do
  let t ← d.transaction
  let rows ← t.inserted.foldlM Table.insert? d.rows
  return { d with rows := rows, executed := d.executed ++ t.executed, transaction := none }

/-! ### The runner -/

inductive MigrationOp where
  | createTable
  | addColumn
  | select
  | baseline (name checksum : String)
  | begin
  | execute (sql : String)
  | insert (name checksum : String)
  | commit
  | rollback
  | setNotNull
  deriving DecidableEq

/-- Answers; `false` and `none` stand for a throw, and an update answers its row count. -/
abbrev MigrationOp.Res : MigrationOp → Type
  | select => Option (List AppliedMigration)
  | baseline _ _ => Option ℕ
  | _ => Bool

abbrev client : Interface := ⟨MigrationOp, MigrationOp.Res⟩

abbrev Runner := ExceptT String (Prog client)

def query (o : MigrationOp) : Runner o.Res := ExceptT.lift (Prog.perform (F := client) o)

def must (p : Runner Bool) : Runner Unit := do
  if ← p then pure () else throw "The query failed."

/-- Fill in the checksums of the rows that have none; the check has found one for each. -/
def baselineRows : List AppliedMigration → Runner Unit
  | [] => pure ()
  | row :: rows =>
      match row.checksum, historical row.name with
      | none, some checksum => do
          match ← query (.baseline row.name checksum) with
          | some 1 => baselineRows rows
          | some _ => throw ("Could not baseline migration checksum: " ++ row.name ++ ".")
          | none => throw "The query failed."
      | _, _ => baselineRows rows

/-- The `try` block around one migration. -/
def applySql (migration : Migration) : Runner Unit := do
  must (query (.execute migration.sql))
  must (query (.insert migration.name migration.checksum))
  must (query .commit)

def applyMigration (migration : Migration) : Runner Unit := do
  must (query .begin)
  match ← ExceptT.lift (applySql migration).run with
  | .ok () => pure ()
  | .error error => do
      must (query .rollback)
      throw error

def applyMissing (appliedNames : List String) : List Migration → Runner Unit
  | [] => pure ()
  | migration :: migrations =>
      if migration.name ∈ appliedNames then applyMissing appliedNames migrations
      else do
        applyMigration migration
        applyMissing appliedNames migrations

def runMigrations (migrations : List Migration) : Runner Unit := do
  must (query .createTable)
  must (query .addColumn)
  let some applied ← query .select | throw "The query failed."
  ofExcept (validateAppliedMigrations migrations applied)
  baselineRows applied
  applyMissing (applied.map AppliedMigration.name) migrations
  must (query .setNotNull)

end GatewayControl.MigrationRunner
