import PassPlan.Sql.Schema
import PassPlan.Sql.Statement
/-!
Running SQL text. Statements are read and run one at a time, each as a whole: a statement is
checked first and runs only when the check passes; one that fails leaves the database as it
was before it, unless it failed under `FAIL`, which keeps what it did, or under `ROLLBACK`,
which also ends the open transaction. A change statement fails at its end when it leaves a
row whose foreign key finds no parent. Transactions and savepoints keep the objects as they
were when they began, to return to them.
-/
namespace PassPlan.Sql

/-- What a statement gives back: the database after it, the columns and rows of a query and how
many rows it changed. -/
structure Outcome where
  db : Database
  columns : List String := []
  rows : List (List Value) := []
  changes : Nat := 0

/-- The database after a statement failed with a stop, and the failure. -/
def Database.afterStop (before : Database) : Stop → Database × Option SqlError
  | .abort e => (before, some e)
  | .fail e db => (db, some e)
  | .rollback e =>
    match before.savepoints.getLast? with
    | some s => ({ before with objects := s.objects, savepoints := [] }, some e)
    | none => (before, some e)
  | .ignore db => (db, none)

/-- Whether a pragma value turns a setting on. -/
def pragmaTruth (v : String) : Bool :=
  match foldName v with
  | "on" | "yes" | "true" | "full" | "extra" => true
  | "off" | "no" | "false" => false
  | s => match s.toList.head? with
    | some c => c.isDigit && (readInt s).value ≠ 0
    | none => false

/-- Runs a pragma: sets a setting, or reports it. -/
def Database.pragma (db : Database) (name : String) (value : PragmaValue) : Outcome :=
  let given := match value with
    | .assign v | .call v => some v
    | .none => none
  let flag (on : Bool) : List (List Value) := [[.int (if on then 1 else 0)]]
  match foldName name, given with
  | "foreign_keys", some v =>
    { db := if db.inTransaction then db else { db with foreignKeys := pragmaTruth v } }
  | "foreign_keys", none => { db, columns := ["foreign_keys"], rows := flag db.foreignKeys }
  | "recursive_triggers", some v => { db := { db with recursiveTriggers := pragmaTruth v } }
  | "recursive_triggers", none => { db, columns := ["recursive_triggers"], rows := flag db.recursiveTriggers }
  | "user_version", some v => { db := { db with userVersion := wrapInt (readInt v).value } }
  | "user_version", none => { db, columns := ["user_version"], rows := [[.int db.userVersion]] }
  | _, _ => { db }

/-- Runs a statement whose parameters are bound: the database after it, and its outcome or
its failure. -/
def Database.step (db : Database) (stmt : Stmt) (params : List Value) : Database × Except SqlError Outcome :=
  let fail (m : String) : Database × Except SqlError Outcome := (db, .error (.logic m))
  match stmt with
  | .begin =>
    if db.inTransaction then fail "cannot start a transaction within a transaction"
    else let db := { db with savepoints := [{ name := none, objects := db.objects }] }; (db, .ok { db })
  | .commit =>
    if !db.inTransaction then fail "cannot commit - no transaction is active"
    else let db := { db with savepoints := [] }; (db, .ok { db })
  | .rollback =>
    match db.savepoints.getLast? with
    | some s => let db := { db with objects := s.objects, savepoints := [] }; (db, .ok { db })
    | none => fail "cannot rollback - no transaction is active"
  | .savepoint name =>
    let db := { db with savepoints := { name := some name, objects := db.objects } :: db.savepoints }
    (db, .ok { db })
  | .release name =>
    match db.savepoints.findIdx? (fun s => (s.name.map (sameName · name)).getD false) with
    | some i => let db := { db with savepoints := db.savepoints.drop (i + 1) }; (db, .ok { db })
    | none => fail ("no such savepoint: " ++ name)
  | .rollbackTo name =>
    match db.savepoints.findIdx? (fun s => (s.name.map (sameName · name)).getD false) with
    | some i =>
      let s := db.savepoints.getD i { name := none, objects := [] }
      let db := { db with objects := s.objects, savepoints := db.savepoints.drop i }
      (db, .ok { db })
    | none => fail ("no such savepoint: " ++ name)
  | .pragma name value => let o := db.pragma name value; (o.db, .ok o)
  | .vacuum =>
    if db.inTransaction then fail "cannot VACUUM from within a transaction" else (db, .ok { db })
  | .analyze | .reindex => (db, .ok { db })
  | .explain s =>
    match s with
    | .select _ | .insert .. | .update .. | .delete .. =>
      match checkChange 64 db [] false [] s with
      | .ok () => (db, .ok { db })
      | .error m => fail m
    | _ => (db, .ok { db })
  | .select q =>
    match checkQuery db [] {} false q with
    | .error m => fail m
    | .ok cols =>
      match runSelect 256 { db, params } [] q with
      | .ok rows => (db, .ok { db, columns := cols.map (·.name), rows })
      | .error s => match db.afterStop s with
        | (db, some e) => (db, .error e)
        | (db, none) => (db, .ok { db })
  | .insert .. | .update .. | .delete .. | .withTables .. =>
    let (inScope, inner) := match stmt with
      | .withTables named s => (db.withNamed named, s)
      | s => (db, s)
    let unscoped (d : Database) : Database := { d with named := db.named }
    match checkChange 64 inScope [] false [] inner with
    | .error m => fail m
    | .ok () =>
      let before := db.foreignKeyViolations
      match change 256 { params } inScope inner with
      | .ok (after, rows, count) =>
        let after := unscoped after
        if after.foreignKeys && after.foreignKeyViolations > before then
          (db, .error (.constraint "FOREIGN KEY constraint failed"))
        else
          let after := { after with changes := count, totalChanges := after.totalChanges + count }
          (after, .ok { db := after, rows, changes := count })
      | .error s => match db.afterStop s with
        | (db, some e) => (unscoped db, .error e)
        | (db, none) => (unscoped db, .ok { db := unscoped db })
  | stmt =>
    match db.define stmt with
    | .ok db => (db, .ok { db })
    | .error e => (db, .error e)

/-- Runs one statement with parameters. -/
def Database.run (db : Database) (stmt : Stmt) (params : List Value := []) : Except SqlError Outcome :=
  (db.step stmt params).2

/-- Runs the first statement of a text with bound parameters. -/
def Database.exec (db : Database) (text : String) (params : List Value := []) : Except SqlError Outcome :=
  match nextStatement (tokenize text) with
  | .error e => .error (.logic e.message)
  | .ok none => .ok { db }
  | .ok (some (stmt, _)) => db.run stmt params

/-- Runs the statements of a text in turn: the database after the last one that ran, and the
failure that stopped the rest, if any. -/
def Database.runText (db : Database) (text : String) : Database × Option SqlError :=
  let tokens := tokenize text
  go (tokens.length + 1) db tokens
where
  go : Nat → Database → List Token → Database × Option SqlError
    | 0, db, _ => (db, none)
    | fuel + 1, db, tokens =>
      match nextStatement tokens with
      | .error e => (db, some (.logic e.message))
      | .ok none => (db, none)
      | .ok (some (stmt, rest)) =>
        match db.step stmt [] with
        | (db, .ok _) => go fuel db rest
        | (db, .error e) => (db, some e)

end PassPlan.Sql
