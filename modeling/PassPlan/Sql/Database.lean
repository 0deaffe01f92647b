import PassPlan.Sql.Syntax
/-!
A database: its schema objects (tables with their rows, indexes, triggers and views) in the
order they were created, which is the order of the schema catalog, the settings a pragma can
change, and the snapshots an open transaction returns to. A table keeps each row with its row
id; a column declared `INTEGER PRIMARY KEY` is that row id. Failures carry the class of the
error and its message, and are written as the driver writes them.
-/
namespace PassPlan.Sql

/-- Why a statement fails. -/
inductive SqlError where
  /-- A malformed statement, a missing or clashing object, or a failed function. -/
  | logic (message : String)
  /-- A constraint was violated or a trigger raised. -/
  | constraint (message : String)
  /-- A row id that is not an integer. -/
  | mismatch
  /-- The file is not a database. -/
  | notADatabase
  /-- A text or blob longer than the database holds. -/
  | tooBig
deriving DecidableEq, Repr

/-- The message of a statement failure, with the driver's prefix. -/
def SqlError.text : SqlError → String
  | .logic m => "sqlite3: SQL logic error: " ++ m
  | .constraint m => "sqlite3: constraint failed: " ++ m
  | .mismatch => "sqlite3: datatype mismatch"
  | .notADatabase => "sqlite3: file is not a database"
  | .tooBig => "sqlite3: string or blob too big"

/-- A table: its columns, its constraints over several columns, and its rows by row id. -/
structure Table where
  name : String
  columns : List ColumnDef
  constraints : List TableConstraint := []
  rows : List (Int × List Value) := []
deriving Inhabited

/-- An index over expressions of a table's rows, usually its columns; an automatic one stands
for a uniqueness constraint and keeps the conflict handling it was declared with. -/
structure Index where
  name : String
  table : String
  terms : List Expr
  unique : Bool := false
  automatic : Bool := false
  filter : Option Expr := none
  onConflict : Conflict := .abort
deriving Inhabited

/-- A trigger: the statements it runs for each row of an event on its table, when its condition
holds. -/
structure Trigger where
  name : String
  table : String
  timing : Timing
  event : Event
  condition : Option Expr := none
  body : List Stmt
deriving Inhabited

/-- A view: a named query, with the names it gives its columns if it gives any. -/
structure View where
  name : String
  columns : List String := []
  query : Select
deriving Inhabited

/-- A schema object. -/
inductive Object where
  | table (t : Table)
  | index (i : Index)
  | trigger (t : Trigger)
  | view (v : View)
deriving Inhabited

/-- The name of an object. -/
def Object.name : Object → String
  | .table t => t.name
  | .index i => i.name
  | .trigger t => t.name
  | .view v => v.name

/-- The kind of an object. -/
def Object.kind : Object → ObjectKind
  | .table _ => .table
  | .index _ => .index
  | .trigger _ => .trigger
  | .view _ => .view

/-- The table an object belongs to. -/
def Object.tableName : Object → String
  | .table t => t.name
  | .index i => i.table
  | .trigger t => t.table
  | .view v => v.name

/-- Lower case for ASCII letters, as names are compared. -/
def foldName (s : String) : String := asciiLower s

/-- Whether two names are the same name. -/
def sameName (a b : String) : Bool := foldName a = foldName b

/-- The state a transaction or a savepoint returns to: the objects when it began, and its name
for a savepoint. -/
structure Snapshot where
  name : Option String
  objects : List Object

/-- A query a WITH clause names, in scope while its statement runs: the names it gives its
columns if it gives any, its rows when they are fixed (the row a recursive query works on),
and whether it is being expanded, when naming it again is circular. -/
structure NamedQuery where
  name : String
  columns : List String := []
  query : Select
  rows : Option (List (List Value)) := none
  expanding : Bool := false
deriving Inhabited

/-- A database. -/
structure Database where
  objects : List Object := []
  /-- Whether foreign keys are enforced. -/
  foreignKeys : Bool := true
  /-- Whether a trigger's changes fire triggers again. -/
  recursiveTriggers : Bool := false
  /-- The open transaction's savepoints, innermost first; empty outside a transaction. -/
  savepoints : List Snapshot := []
  /-- The row id of the last row inserted. -/
  lastRowid : Int := 0
  /-- How many rows the last change statement changed. -/
  changes : Nat := 0
  /-- How many rows change statements changed in all. -/
  totalChanges : Nat := 0
  /-- The number an application keeps in the database header. -/
  userVersion : Int := 0
  /-- The queries WITH clauses name for the running statement, innermost first. -/
  named : List NamedQuery := []
deriving Inhabited

/-- Whether a column is declared with the given name. -/
def ColumnDef.named (c : ColumnDef) (n : String) : Bool := sameName c.name n

namespace Table

/-- The position of a column. -/
def columnIndex? (t : Table) (c : String) : Option Nat := t.columns.findIdx? (·.named c)

/-- The primary key columns a table constraint names, if any. -/
def keyConstraint? (t : Table) : Option (List String × Conflict) :=
  t.constraints.findSome? fun
    | .primaryKey cs c => some (cs, c)
    | _ => none

/-- The column that is the row id: the only primary key column, declared exactly `INTEGER`. -/
def rowidColumn? (t : Table) : Option Nat :=
  match t.keyConstraint? with
  | some ([c], _) =>
    match t.columnIndex? c with
    | some i => if asciiUpper (t.columns.getD i default).declType = "INTEGER" then some i else none
    | none => none
  | some _ => none
  | none =>
    match t.columns.findIdx? (·.primaryKey) with
    | some i =>
      let c := t.columns.getD i default
      if asciiUpper c.declType = "INTEGER" && !c.descending then some i else none
    | none => none

/-- Whether new row ids never reuse old ones. -/
def autoincrement (t : Table) : Bool := t.columns.any (·.autoincrement)

/-- The column groups whose values must be unique, with their conflict handling: the primary
key when it is not the row id, then each unique column or constraint, in the order declared. -/
def uniqueGroups (t : Table) : List (List String × Conflict) :=
  let pk : List (List String × Conflict) :=
    if (t.rowidColumn?).isSome then []
    else match t.keyConstraint? with
      | some g => [g]
      | none => (t.columns.filter (·.primaryKey)).map fun c => ([c.name], c.onConflict)
  let columnGroups := (t.columns.filter (·.unique)).map fun c => ([c.name], c.onConflict)
  let tableGroups := t.constraints.filterMap fun
    | .unique cs c => some (cs, c)
    | _ => none
  pk ++ columnGroups ++ tableGroups

/-- The conflict handling of the row id column. -/
def rowidConflict (t : Table) : Conflict :=
  match t.rowidColumn? with
  | some i =>
    match t.keyConstraint? with
    | some (_, c) => c
    | none => (t.columns.getD i default).onConflict
  | none => .abort

/-- The foreign keys of a table: its columns and the parent they name. -/
def foreignKeys (t : Table) : List (List String × Reference) :=
  (t.columns.filterMap fun c => c.references.map fun r => ([c.name], r)) ++
    t.constraints.filterMap fun
      | .foreignKey cs r => some (cs, r)
      | _ => none

/-- The check constraints of a table: those of its columns, then its own, in the order declared. -/
def checks (t : Table) : List Check :=
  t.columns.flatMap (·.checks) ++ t.constraints.filterMap fun
    | .check c => some c
    | _ => none

/-- The value of a column in a row. -/
def cell (t : Table) (row : List Value) (c : String) : Value :=
  match t.columnIndex? c with
  | some i => row.getD i .null
  | none => .null

/-- The row of a row id. -/
def row? (t : Table) (rowid : Int) : Option (List Value) := (t.rows.find? (·.1 = rowid)).map (·.2)

/-- Sets the row of a row id, keeping the rows in row id order. -/
def putRow (t : Table) (rowid : Int) (row : List Value) : Table :=
  if t.rows.any (·.1 = rowid) then
    { t with rows := t.rows.map fun (i, r) => if i = rowid then (i, row) else (i, r) }
  else
    let before := t.rows.filter (·.1 < rowid)
    let after := t.rows.filter (·.1 > rowid)
    { t with rows := before ++ [(rowid, row)] ++ after }

/-- Removes the row of a row id. -/
def dropRow (t : Table) (rowid : Int) : Table := { t with rows := t.rows.filter (·.1 ≠ rowid) }

end Table

namespace Database

/-- The table, index or view of a name; triggers have names of their own. -/
def find? (db : Database) (n : String) : Option Object :=
  db.objects.find? fun o => o.kind ≠ .trigger && sameName o.name n

/-- The query a WITH clause in scope names. -/
def named? (db : Database) (n : String) : Option NamedQuery :=
  db.named.find? fun q => sameName q.name n

/-- The database with the queries of a WITH clause in scope. -/
def withNamed (db : Database) (tables : List CommonTable) : Database :=
  { db with named := tables.map (fun | .mk name columns q => { name, columns, query := q }) ++ db.named }

/-- The database with one query in scope in place of any of its name. -/
def bindNamed (db : Database) (q : NamedQuery) : Database :=
  { db with named := q :: db.named }

/-- The trigger of a name. -/
def trigger? (db : Database) (n : String) : Option Trigger :=
  db.objects.findSome? fun
    | .trigger t => if sameName t.name n then some t else none
    | _ => none

/-- The table of a name. -/
def table? (db : Database) (n : String) : Option Table :=
  match db.find? n with
  | some (.table t) => some t
  | _ => none

/-- Replaces the table of a name. -/
def setTable (db : Database) (t : Table) : Database :=
  { db with objects := db.objects.map fun o => match o with
    | .table u => if sameName u.name t.name then .table t else o
    | o => o }

/-- Removes the objects of a kind and name. -/
def remove (db : Database) (kind : ObjectKind) (n : String) : Database :=
  { db with objects := db.objects.filter fun o => !(o.kind = kind && sameName o.name n) }

/-- Removes a table with its indexes and triggers. -/
def removeTable (db : Database) (n : String) : Database :=
  { db with objects := db.objects.filter fun o =>
    match o with
    | .view _ => true
    | o => !sameName o.tableName n }

/-- The indexes of a table, in creation order. -/
def indexesOf (db : Database) (table : String) : List Index :=
  db.objects.filterMap fun
    | .index i => if sameName i.table table then some i else none
    | _ => none

/-- The unique indexes created on a table by statement. -/
def uniqueIndexes (db : Database) (table : String) : List Index :=
  (db.indexesOf table).filter fun i => i.unique && !i.automatic

/-- The triggers of an event on a table, in creation order. -/
def triggersOn (db : Database) (table : String) (timing : Timing) (event : Event) : List Trigger :=
  db.objects.filterMap fun
    | .trigger tr =>
      if sameName tr.table table && tr.timing = timing && tr.event.sameKind event then some tr
      else none
    | _ => none

/-- The tables whose foreign keys name a table, with those keys. -/
def childrenOf (db : Database) (parent : String) : List (Table × List String × Reference) :=
  db.objects.foldl (fun acc o => match o with
    | .table t => acc ++ (t.foreignKeys.filter (sameName ·.2.table parent)).map fun (cs, r) => (t, cs, r)
    | _ => acc) []

/-- The rows of the schema catalog: kind, name, table name, page and text. -/
def catalogRows (db : Database) : List (Int × List Value) :=
  db.objects.zipIdx.map fun (o, i) =>
    ((i : Int) + 1, [.text o.kind.name, .text o.name, .text o.tableName, .int ((i : Int) + 2), .null])

/-- The columns of the schema catalog. -/
def catalogColumns : List ColumnDef :=
  [{ name := "type", declType := "TEXT" }, { name := "name", declType := "TEXT" },
    { name := "tbl_name", declType := "TEXT" }, { name := "rootpage", declType := "INT" },
    { name := "sql", declType := "TEXT" }]

/-- Whether a name is the schema catalog's. -/
def isCatalog (n : String) : Bool :=
  ["sqlite_master", "sqlite_schema", "main.sqlite_master", "main.sqlite_schema"].contains (foldName n)

/-- The table a query reads, the schema catalog included. -/
def source? (db : Database) (n : String) : Option Table :=
  if isCatalog n then
    some { name := "sqlite_master", columns := catalogColumns, rows := db.catalogRows }
  else db.table? n

/-- Whether a transaction is open. -/
def inTransaction (db : Database) : Bool := !db.savepoints.isEmpty

end Database
end PassPlan.Sql
