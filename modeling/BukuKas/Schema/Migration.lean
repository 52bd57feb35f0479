import BukuKas.Schema.Table

/-!
# The migration of the database

One migration makes the tables of users, transactions and budget periods, and can be taken back.
The database notes which migration it has seen in a table of its own, which appears with the first
run of any migration and stays.

## Main results

* `migrateUp_idem` : migrating a second time changes nothing.
* `tables_migrateDown_migrateUp` : what the migration makes of nothing, its reversal unmakes.
-/

namespace BukuKas.Schema

/-- The columns that say when a row was made and changed. -/
def timestamps : List Column := [
  { name := "created_at", type := .datetime },
  { name := "updated_at", type := .datetime }]

/-- The column with the number of a row. -/
def key : Column := { name := "id", type := .integer, isKey := true }

/-- The column with the number of the user to whom a row belongs. -/
def owner : Column := { name := "user_id", type := .integer }

/-- The reference to that user. -/
def ownerReference : Reference := ⟨["user_id"], "users"⟩

/-- The table of users. -/
def users : Table where
  name := "users"
  columns := [
    key,
    { name := "email", type := .varchar 255 },
    { name := "name", type := .varchar 255, nullable := true },
    { name := "phone", type := .varchar 32, nullable := true }] ++ timestamps

/-- The table of transactions. -/
def transactions : Table where
  name := "transactions"
  columns := [
    key,
    owner,
    { name := "item_name", type := .text },
    { name := "amount", type := .numeric 18 2 },
    { name := "category", type := .varchar 64 },
    { name := "tx_date", type := .date },
    { name := "tx_type", type := .varchar 7 },
    { name := "source", type := .varchar 32, nullable := true }] ++ timestamps
  references := [ownerReference]
  checks := ["ck_transactions_amount_positive"]

/-- The table of budget periods. -/
def budgetPeriods : Table where
  name := "budget_periods"
  columns := [
    key,
    owner,
    { name := "monthly_budget", type := .numeric 18 2 },
    { name := "start_date", type := .date },
    { name := "end_date", type := .date },
    { name := "is_active", type := .boolean }] ++ timestamps
  references := [ownerReference]
  checks := ["ck_budget_periods_range"]

/-- The changes that the migration makes. -/
def upgrade : List Change := [
  .createTable users,
  .createIndex "users" ⟨"ix_users_email", ["email"], true⟩,
  .createTable transactions,
  .createIndex "transactions" ⟨"ix_transactions_user_id", ["user_id"], false⟩,
  .createIndex "transactions" ⟨"ix_transactions_tx_date", ["tx_date"], false⟩,
  .createIndex "transactions" ⟨"ix_transactions_user_txdate", ["user_id", "tx_date"], false⟩,
  .createTable budgetPeriods,
  .createIndex "budget_periods" ⟨"ix_budget_periods_user_id", ["user_id"], false⟩,
  .createIndex "budget_periods" ⟨"ix_budget_periods_user_active", ["user_id", "is_active"], false⟩]

/-- The changes that take the migration back. -/
def downgrade : List Change := [
  .dropIndex "budget_periods" "ix_budget_periods_user_active",
  .dropIndex "budget_periods" "ix_budget_periods_user_id",
  .dropTable "budget_periods",
  .dropIndex "transactions" "ix_transactions_user_txdate",
  .dropIndex "transactions" "ix_transactions_tx_date",
  .dropIndex "transactions" "ix_transactions_user_id",
  .dropTable "transactions",
  .dropIndex "users" "ix_users_email",
  .dropTable "users"]

/-- The table in which the database notes the migration that it has seen. -/
def versionTable : Table where
  name := "alembic_version"
  columns := [{ name := "version_num", type := .varchar 32, isKey := true }]

/-- A database, as far as migrations are concerned. -/
structure Database where
  /-- Whether any migration was ever run. -/
  touched : Bool := false
  /-- Whether the migration is in force. -/
  migrated : Bool := false
  /-- The tables besides that of the versions. -/
  tables : List Table := []
  deriving DecidableEq

namespace Database

/-- The database of a new file, which needs a directory to lie in. -/
def create? (directoryExists : Bool) : Option Database :=
  if directoryExists then some {} else none

/-- All tables. -/
def allTables (d : Database) : List Table :=
  (if d.touched then [versionTable] else []) ++ d.tables

/-- Brings the migration into force. -/
def migrateUp (d : Database) : Database :=
  if d.migrated then d
  else { touched := true, migrated := true, tables := Change.applyAll d.tables upgrade }

/-- Takes the migration back. -/
def migrateDown (d : Database) : Database :=
  if d.migrated then
    { touched := true, migrated := false, tables := Change.applyAll d.tables downgrade }
  else { d with touched := true }

/-- What is done when the service starts: the migration, unless it is turned off. -/
def start (runMigrations : Bool) (d : Database) : Database :=
  if runMigrations then d.migrateUp else d

theorem migrateUp_idem (d : Database) : d.migrateUp.migrateUp = d.migrateUp := by
  unfold migrateUp
  split <;> simp_all

theorem tables_migrateDown_migrateUp : (migrateDown (migrateUp {})).tables = [] := by
  decide +kernel

end Database

end BukuKas.Schema
