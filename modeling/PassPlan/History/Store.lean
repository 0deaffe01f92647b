import PassPlan.History.Migration
import PassPlan.History.Repository
import PassPlan.Workspace.Tree
/-!
A history database file in a file tree. Opening it makes the missing directories, copies an
existing file beside it with a `.bak` suffix, and brings its schema to the last version. While
it is open its write-ahead log and shared-memory files stand beside it; closing writes the
database back and removes them. A file that holds text other than nothing is not a database.
-/
namespace PassPlan.History

open PassPlan.Workspace

/-- An open history database: the path it was opened by, the file it lives in and its
content. -/
structure Connection where
  path : String
  file : String
  db : Sql.Database

/-- The side files of an open database. -/
def sideFiles (file : String) : List String := [file ++ "-shm", file ++ "-wal"]

/-- The database a file holds; text other than nothing is not one. -/
def databaseOf : Content → Except Sql.SqlError Sql.Database
  | .database db => .ok db
  | .text s => if s = "" then .ok {} else .error .notADatabase

/-- Closes a connection: the database is written to its file and the side files go. -/
def Connection.close (t : Tree) (c : Connection) : Tree :=
  (sideFiles c.file).foldl Tree.erase (t.put c.file (.file (.database c.db)))

/-- Brings an open database to the last schema version. -/
def migrate (db : Sql.Database) : Sql.Database × Option String :=
  match Migrator.create db with
  | .error e => (db, some ("prepare migrations: " ++ e))
  | .ok m =>
    let (m, failure) := m.up
    match failure with
    | some e => if e = noChange then check m else (m.db, some ("run migrations: " ++ e))
    | none => check m
where
  check (m : Migrator) : Sql.Database × Option String :=
    match m.version with
    | .error e => (m.db, some ("read schema version: " ++ e))
    | .ok (v, dirty) =>
      if v = noVersion then (m.db, some "read schema version: no migration")
      else if dirty then (m.db, some ("schema version " ++ toString v ++ " is dirty"))
      else (m.db, none)

/-- The schema version of a database and whether it is unfinished; none reads as no version. -/
def versionOf (db : Sql.Database) : Int × Bool :=
  match Migrator.create db with
  | .ok m => m.version.toOption.getD (noVersion, false)
  | .error _ => (noVersion, false)

/-- The versions completed between two states of a database, as the migration log names them:
`<version>/u <name>`. -/
def appliedBetween (before after : Int × Bool) : List String :=
  (migrations.filter fun g =>
    before.1 < g.version && (g.version < after.1 || ((g.version : Int) = after.1 && !after.2))).map
    fun g => toString g.version ++ "/u " ++ g.name

/-- Opens the database at a path: the tree after it, the versions applied on the way as the
migration log names them, and the connection or why it failed. -/
def openDatabaseTold (t : Tree) (path : String) : Tree × List String × Except String Connection :=
  match t.mkdirAll (Path.dir path) with
  | .error e => (t, [], .error ("create database directory: " ++ e.text))
  | .ok t =>
    let existed := t.isFile path
    let backedUp : Except String Tree :=
      if existed then
        match t.read path with
        | .error e => .error ("backup database: " ++ e.text)
        | .ok c => (t.write (path ++ ".bak") c).mapError fun e => "backup database: " ++ e.text
      else .ok t
    match backedUp with
    | .error e => (t, [], .error e)
    | .ok t =>
      let file := (t.resolve true path).toOption.getD path
      let content : Except Sql.SqlError Sql.Database :=
        match t.node? file with
        | none => .ok {}
        | some (.file c) => databaseOf c
        | some _ => .error (.logic "unable to open database file")
      match content with
      | .error e => (t, [], .error ("open database: sqlite3: invalid _pragma: " ++ e.text))
      | .ok db =>
        let (db', failure) := migrate db
        let applied := appliedBetween (versionOf db) (versionOf db')
        let c : Connection := { path, file, db := db' }
        match failure with
        | some e => (c.close t, applied, .error e)
        | none =>
          let t := t.put file (.file (.database db'))
          ((sideFiles file).foldl (fun t f => t.put f (.file (.text ""))) t, applied, .ok c)

/-- Opens the database at a path: the tree after it, and the connection or why it failed. -/
def openDatabase (t : Tree) (path : String) : Tree × Except String Connection :=
  let (t, _, r) := openDatabaseTold t path
  (t, r)



/-- The schema version of an open database. -/
def Connection.version (c : Connection) : Except String Int := do
  let o ← (c.db.exec "SELECT version FROM schema_migrations LIMIT 1").mapError
    fun e => "read schema version: " ++ e.text
  match o.rows with
  | [] => throw "read schema version: sql: no rows in result set"
  | row :: _ => (scanCell row o.columns 0 (readInt .uint)).mapError ("read schema version: " ++ ·)

end PassPlan.History
