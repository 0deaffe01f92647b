import PassPlan.History.Cell
import PassPlan.Sql.Script
/-!
Schema versions of the history database. Each version has a text that applies it and one that
undoes it; the applied version and whether its application was cut short are kept in a table of
their own. Bringing a database up applies every version after the current one, in order: the
version is first marked unfinished, then its text runs, then the mark is cleared, so a failure
leaves the version marked. A database at the last version needs no change.
-/
namespace PassPlan.History

/-- A schema version: its number, its name and the texts that apply and undo it. -/
structure Migration where
  version : Nat
  name : String
  up : String
  down : String

/-- The schema versions in order. -/
def migrations : List Migration :=
  [ { version := 1, name := "create_runs",
      up := "CREATE TABLE runs (\n    id            INTEGER PRIMARY KEY AUTOINCREMENT,\n    run_id        TEXT    NOT NULL UNIQUE,\n    backend       TEXT    NOT NULL,\n    flow          TEXT    NOT NULL,\n    state         TEXT    NOT NULL,\n    plan          TEXT    NOT NULL,\n    failed_pass   TEXT,\n    failed_index  INTEGER,\n    failure       TEXT,\n    started_at    INTEGER NOT NULL,\n    finished_at   INTEGER NOT NULL\n);\n\nCREATE INDEX idx_runs_flow ON runs (backend, flow, started_at DESC);\n\nCREATE TABLE run_steps (\n    run_id      TEXT    NOT NULL REFERENCES runs (run_id) ON DELETE CASCADE,\n    idx         INTEGER NOT NULL,\n    pass        TEXT    NOT NULL,\n    outcome     TEXT    NOT NULL,\n    duration_us INTEGER NOT NULL,\n    error       TEXT,\n    PRIMARY KEY (run_id, idx)\n);\n",
      down := "DROP TABLE IF EXISTS run_steps;\nDROP INDEX IF EXISTS idx_runs_flow;\nDROP TABLE IF EXISTS runs;\n" },
    { version := 2, name := "add_run_transformed",
      up := "ALTER TABLE runs ADD COLUMN transformed INTEGER NOT NULL DEFAULT 0;\n",
      down := "ALTER TABLE runs DROP COLUMN transformed;\n" } ]

/-- The version number of a database that has none. -/
def noVersion : Int := -1

/-- The failure of bringing a database up when it is already at the last version. -/
def noChange : String := "no change"

/-- Access to the version table of an open database, with the lock that guards migrations. -/
structure Migrator where
  db : Sql.Database
  locked : Bool := false

namespace Migrator

/-- The migrator of an open database, creating the version table when missing. -/
def create (db : Sql.Database) : Except String Migrator := do
  let o ← (db.exec "CREATE TABLE IF NOT EXISTS schema_migrations (\n\t\tversion INTEGER NOT NULL PRIMARY KEY,\n\t\tdirty   INTEGER NOT NULL\n\t)").mapError (·.text)
  pure { db := o.db }

/-- Takes the lock. -/
def lock (m : Migrator) : Except String Migrator :=
  if m.locked then .error "can't acquire lock" else .ok { m with locked := true }

/-- Releases the lock. -/
def unlock (m : Migrator) : Except String Migrator :=
  if m.locked then .ok { m with locked := false } else .error "can't unlock, as not currently locked"

/-- Runs a migration text as one transaction; a failure undoes all of it. -/
def run (m : Migrator) (body : String) : Except String Migrator :=
  match m.db.runText body with
  | (db, none) => .ok { m with db }
  | (_, some e) => .error ("migration failed in line 0: " ++ body ++ " (details: " ++ e.text ++ ")")

/-- Records a version and whether it is unfinished, in one transaction; no version is recorded
as no row unless it is marked unfinished. -/
def setVersion (m : Migrator) (version : Int) (dirty : Bool) : Except String Migrator := do
  let o ← (m.db.exec "DELETE FROM schema_migrations").mapError (·.text)
  if version ≥ 0 || (version = noVersion && dirty) then
    let o ← (o.db.exec "INSERT INTO schema_migrations (version, dirty) VALUES (?, ?)"
      [.int version, .int (if dirty then 1 else 0)]).mapError (·.text)
    pure { m with db := o.db }
  else pure { m with db := o.db }

/-- The recorded version and whether it is unfinished; no row is no version. -/
def version (m : Migrator) : Except String (Int × Bool) := do
  let o ← (m.db.exec "SELECT version, dirty FROM schema_migrations LIMIT 1").mapError (·.text)
  match o.rows with
  | [] => pure (noVersion, false)
  | row :: _ =>
    let v ← scanCell row o.columns 0 (readInt .int)
    let d ← scanCell row o.columns 1 readBool
    pure (v, d)

/-- Drops every table that is not internal. -/
def drop (m : Migrator) : Except String Migrator := do
  let o ← (m.db.exec "SELECT name FROM sqlite_master WHERE type = 'table' AND name NOT LIKE 'sqlite_%'").mapError (·.text)
  let names ← o.rows.mapM fun row => scanCell row o.columns 0 readText
  let db ← names.foldlM (fun db n => do
    let o ← (db.exec ("DROP TABLE IF EXISTS " ++ Text.quote n)).mapError (·.text)
    pure o.db) m.db
  pure { m with db }

/-- Applies one version: marked unfinished, its text run, the mark cleared. -/
def apply (m : Migrator) (g : Migration) : Except (Migrator × String) Migrator := do
  let m ← (m.setVersion g.version true).mapError (m, ·)
  let m ← (m.run g.up).mapError (m, ·)
  (m.setVersion g.version false).mapError (m, ·)

/-- Applies the versions in turn, stopping at the first failure with the database as it was
left. -/
def applyAll (m : Migrator) : List Migration → Except (Migrator × String) Migrator
  | [] => .ok m
  | g :: gs => do
    let m ← m.apply g
    applyAll m gs

/-- The versions after a current one; a current version that is not known is a failure. -/
def pending (current : Int) : Except String (List Migration) :=
  if current < 0 then .ok migrations
  else
    match migrations.findIdx? (fun g => (g.version : Int) = current) with
    | some i =>
      let rest := migrations.drop (i + 1)
      if rest.isEmpty then .error noChange else .ok rest
    | none =>
      .error ("no migration found for version " ++ toString current ++ ": read down for version " ++
        toString current ++ " migrations: file does not exist")

/-- Brings the database up to the last version under the lock: the migrator after it, and the
failure if there was one, the database keeping what was applied before it. -/
def up (m : Migrator) : Migrator × Option String :=
  match m.lock with
  | .error e => (m, some e)
  | .ok m =>
    let release (m : Migrator) (e : Option String) : Migrator × Option String :=
      match m.unlock with
      | .ok m => (m, e)
      | .error u => (m, some ((e.map (· ++ "\n")).getD "" ++ u))
    match m.version with
    | .error e => release m (some e)
    | .ok (v, dirty) =>
      if dirty then release m (some ("Dirty database version " ++ toString v ++ ". Fix and force version."))
      else
        match pending v with
        | .error e => release m (some e)
        | .ok gs =>
          match m.applyAll gs with
          | .ok m => release m none
          | .error (m, e) => release m (some e)

end Migrator
end PassPlan.History
