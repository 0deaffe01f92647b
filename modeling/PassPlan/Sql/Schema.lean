import PassPlan.Sql.Prepare
/-!
Statements that change the schema. Creating an object checks its name against the names the
database keeps for itself and against the objects there are, then what the object refers to;
a table with `AUTOINCREMENT` brings the sequence table with it. Dropping a table that other
tables' foreign keys name first deletes its rows as a deletion would, and fails when that
leaves rows without a parent. Renaming a table or a column carries the new name into the
indexes, triggers and foreign keys that use the old one; adding a column gives the existing
rows its default; dropping a column refuses a key column and one an index uses.
-/
namespace PassPlan.Sql

/-- Whether a name is one the database keeps for its own objects. -/
def isReservedName (n : String) : Bool := (foldName n).startsWith "sqlite_"

/-- Fails with a logic error. -/
def schemaError {α : Type} (m : String) : Except SqlError α := .error (.logic m)

/-- The failure of a name already taken by a table, view or index, if it is. -/
def Database.clash (db : Database) (name : String) : Option String :=
  match db.find? name with
  | some (.table _) => some ("table " ++ name ++ " already exists")
  | some (.view _) => some ("view " ++ name ++ " already exists")
  | some (.index _) => some ("there is already an index named " ++ name)
  | _ => none

/-- The automatic indexes of a table's uniqueness constraints. -/
def Table.automaticIndexes (t : Table) : List Index :=
  t.uniqueGroups.zipIdx.map fun ((cs, c), i) =>
    { name := "sqlite_autoindex_" ++ t.name ++ "_" ++ toString (i + 1), table := t.name
      terms := cs.map fun n => Expr.column none n false, unique := true, automatic := true, onConflict := c }

/-- The type a column of a table made from a query is declared with, from its affinity. -/
def declaredFor : Option Affinity → String
  | some .integer => "INT"
  | some .real => "REAL"
  | some .text => "TEXT"
  | some .numeric => "NUM"
  | _ => ""

/-- Adds a table with its automatic indexes, and the sequence table when the table is the
first to need it. -/
def Database.addTable (db : Database) (t : Table) : Database :=
  let db := { db with objects := db.objects ++ [.table t] ++ t.automaticIndexes.map Object.index }
  if t.autoincrement && (db.table? sequenceTable).isNone then
    { db with objects := db.objects ++ [.table { name := sequenceTable, columns := [{ name := "name" }, { name := "seq" }] }] }
  else db

/-- Checks the definition of a new table: its columns, keys, references and checks. -/
def checkTableDef (db : Database) (name : String) (cols : List ColumnDef) (cons : List TableConstraint) :
    Except String Unit := do
  let mut seen : List String := []
  for c in cols do
    if seen.any (sameName · c.name) then throw ("duplicate column name: " ++ c.name)
    seen := seen ++ [c.name]
  let keys := (cols.filter (·.primaryKey)).length + (cons.filter fun
    | .primaryKey _ _ => true
    | _ => false).length
  if keys > 1 then throw ("table \"" ++ name ++ "\" has more than one primary key")
  let t : Table := { name, columns := cols, constraints := cons }
  if cols.any (·.autoincrement) then
    match t.rowidColumn? with
    | some i => if !(cols.getD i default).autoincrement then throw "AUTOINCREMENT is only allowed on an INTEGER PRIMARY KEY"
    | none => throw "AUTOINCREMENT is only allowed on an INTEGER PRIMARY KEY"
  for k in cons do
    match k with
    | .primaryKey cs _ | .unique cs _ =>
      for c in cs do
        if (t.columnIndex? c).isNone then throw ("no such column: " ++ c)
    | .foreignKey cs r =>
      for c in cs do
        if (t.columnIndex? c).isNone then throw ("unknown column \"" ++ c ++ "\" in foreign key definition")
      if !r.columns.isEmpty && r.columns.length ≠ cs.length then
        throw "number of columns in foreign key does not match the number of columns in the referenced table"
    | .check _ => pure ()
  for c in cols do
    if let some r := c.references then
      if r.columns.length > 1 then
        throw ("foreign key on " ++ c.name ++ " should reference only one column of table " ++ r.table)
  let env : Env := [{ frames := [(t.info none).empty] }]
  for ck in t.checks do
    checkOne db env {} ck.condition

/-- Renames the columns an expression names, outside its subqueries. -/
def renameColumnIn (old new : String) : Nat → Expr → Expr
  | 0, e => e
  | n + 1, e =>
    let go := renameColumnIn old new n
    match e with
    | .column t c q => if sameName c old then .column t new q else e
    | .unary op a => .unary op (go a)
    | .binary op a b => .binary op (go a) (go b)
    | .isNull a neg => .isNull (go a) neg
    | .like g a p esc neg => .like g (go a) (go p) (esc.map go) neg
    | .between a lo hi neg => .between (go a) (go lo) (go hi) neg
    | .inList a items neg => .inList (go a) (items.map go) neg
    | .inSelect a q neg => .inSelect (go a) q neg
    | .call f args d s => .call f (args.map go) d s
    | .cast a ty => .cast (go a) ty
    | .case o arms other => .case (o.map go) (arms.map fun (w, t) => (go w, go t)) (other.map go)
    | .collate a c => .collate (go a) c
    | .row items => .row (items.map go)
    | e => e

/-- Renames a column in a list of names. -/
def renameIn (old new : String) (cs : List String) : List String :=
  cs.map fun c => if sameName c old then new else c

/-- Renames a table's column everywhere the schema refers to it. -/
def Database.renameColumn (db : Database) (table old new : String) : Database :=
  let fix := renameColumnIn old new 64
  { db with objects := db.objects.map fun (o : Object) => match o with
    | .table t =>
      let t := if sameName t.name table then
          { t with
            columns := t.columns.map fun c =>
              { c with name := if c.named old then new else c.name
                       checks := c.checks.map fun k => { k with condition := fix k.condition } }
            constraints := t.constraints.map fun
              | .primaryKey cs c => .primaryKey (renameIn old new cs) c
              | .unique cs c => .unique (renameIn old new cs) c
              | .foreignKey cs r => .foreignKey (renameIn old new cs) r
              | .check k => .check { k with condition := fix k.condition } }
        else t
      .table { t with
        columns := t.columns.map fun c =>
          { c with references := c.references.map fun r =>
            if sameName r.table table then { r with columns := renameIn old new r.columns } else r }
        constraints := t.constraints.map fun
          | .foreignKey cs r =>
            .foreignKey cs (if sameName r.table table then { r with columns := renameIn old new r.columns } else r)
          | k => k }
    | .index i =>
      if sameName i.table table then .index { i with terms := i.terms.map fix, filter := i.filter.map fix } else o
    | .trigger tr =>
      if sameName tr.table table then
        .trigger { tr with
          event := match tr.event with
            | .update cs => .update (renameIn old new cs)
            | e => e }
      else o
    | o => o }

/-- Renames a table everywhere the schema refers to it. -/
def Database.renameTable (db : Database) (old new : String) : Database :=
  let rename (n : String) := if sameName n old then new else n
  let db := { db with objects := db.objects.map fun (o : Object) => match o with
    | .table t =>
      .table { t with
        name := rename t.name
        columns := t.columns.map fun (c : ColumnDef) =>
          { c with references := c.references.map fun (r : Reference) => { r with table := rename r.table } }
        constraints := t.constraints.map fun (k : TableConstraint) => match k with
          | .foreignKey cs r => .foreignKey cs { r with table := rename r.table }
          | k => k }
    | .index i => .index { i with table := rename i.table }
    | .trigger tr => .trigger { tr with table := rename tr.table }
    | o => o }
  match db.table? sequenceTable with
  | some st =>
    db.setTable { st with rows := st.rows.map fun ((i, r) : Int × List Value) => match r with
      | .text n :: rest => (i, Value.text (rename n) :: rest)
      | r => (i, r) }
  | none => db

/-- Runs a schema statement. -/
def Database.define (db : Database) (stmt : Stmt) : Except SqlError Database :=
  match stmt with
  | .createTable name ine cols cons => do
    if isReservedName name then schemaError ("object name reserved for internal use: " ++ name)
    match db.clash name with
    | some m => if ine && !m.startsWith "there" then pure db else schemaError m
    | none => do
      (checkTableDef db name cols cons).mapError SqlError.logic
      pure (db.addTable { name, columns := cols, constraints := cons })
  | .createTableAs name ine q => do
    if isReservedName name then schemaError ("object name reserved for internal use: " ++ name)
    match db.clash name with
    | some m => if ine && !m.startsWith "there" then pure db else schemaError m
    | none => do
      let cols ← (checkQuery db [] {} false q).mapError SqlError.logic
      let rows ← match runSelect 256 { db } [] q with
        | .ok rows => pure rows
        | .error (.abort e) | .error (.fail e _) | .error (.rollback e) => .error e
        | .error (.ignore _) => pure []
      let cols := distinctNames cols
      let defs := cols.map fun c => ({ name := c.name, declType := declaredFor c.affinity } : ColumnDef)
      let t : Table := { name, columns := defs }
      let t := rows.zipIdx.foldl (fun (t : Table) (r, i) =>
        t.putRow ((i : Int) + 1) ((defs.zip r).map fun (c, v) => v.withAffinity c.affinity)) t
      pure (db.addTable t)
  | .createIndex name ine unique table terms filter => do
    let some t := db.table? table
      | if Database.isCatalog table then schemaError ("table " ++ table ++ " may not be indexed")
        else if (db.view? table).isSome then schemaError "views may not be indexed"
        else schemaError ("no such table: main." ++ table)
    if isReservedName t.name then schemaError ("table " ++ t.name ++ " may not be indexed")
    if isReservedName name then schemaError ("object name reserved for internal use: " ++ name)
    match db.find? name with
    | some (.index _) => if ine then return db else schemaError ("index " ++ name ++ " already exists")
    | some _ => schemaError ("there is already a table named " ++ name)
    | none => pure ()
    let env : Env := [{ frames := [(t.info none).empty] }]
    let terms := terms.map fun
      | .lit (.text s) => Expr.column none s false
      | e => e
    for e in terms do
      (checkOne db env {} e).mapError SqlError.logic
    (filter.forM (checkOne db env {})).mapError SqlError.logic
    let idx : Index := { name, table := t.name, terms, unique, filter }
    let db := { db with objects := db.objects ++ [.index idx] }
    if unique then
      let key : UniqueKey := { name, terms, columns := plainColumns terms, conflict := .abort, filter }
      let clash := t.rows.any fun (id, row) =>
        match clashes { db } t key id row with
        | .ok others => !others.isEmpty
        | .error _ => false
      if clash then .error (.constraint (key.message t)) else pure db
    else pure db
  | .createTrigger name ine timing event table condition body => do
    let target := db.find? table
    let isView := match target with
      | some (.view _) => true
      | _ => false
    match target with
    | some (.table _) | some (.view _) => pure ()
    | _ => schemaError ("no such table: main." ++ table)
    if isReservedName name then schemaError ("object name reserved for internal use: " ++ name)
    if (db.trigger? name).isSome then
      if ine then return db else schemaError ("trigger " ++ name ++ " already exists")
    if isReservedName table then schemaError "cannot create trigger on system table"
    if isView && timing ≠ .insteadOf then
      schemaError ("cannot create " ++ (if timing = .before then "BEFORE" else "AFTER") ++ " trigger on view: " ++ table)
    if !isView && timing = .insteadOf then
      schemaError ("cannot create INSTEAD OF trigger on table: " ++ table)
    let owner := ((target.map Object.name).getD table)
    pure { db with objects := db.objects ++ [.trigger { name, table := owner, timing, event, condition, body }] }
  | .createView name ine columns query => do
    if isReservedName name then schemaError ("object name reserved for internal use: " ++ name)
    match db.clash name with
    | some m => if ine && !m.startsWith "there" then pure db else schemaError m
    | none => pure { db with objects := db.objects ++ [.view { name, columns, query }] }
  | .drop kind name ie =>
    match kind with
    | .table =>
      match db.find? name with
      | some (.table t) => do
        if isReservedName t.name && !(foldName t.name).startsWith "sqlite_stat" then
          schemaError ("table " ++ t.name ++ " may not be dropped")
        let emptied ← if db.foreignKeys && !(db.childrenOf t.name).isEmpty then
            let before := db.foreignKeyViolations
            let run : Run := { quiet := true }
            match t.rows.foldlM (fun db (id, _) => do pure (← deleteRow 256 run db t.name id false).1) db with
            | .ok db =>
              let dropped := db.removeTable t.name
              if dropped.foreignKeyViolations > before then .error (.constraint "FOREIGN KEY constraint failed")
              else pure db
            | .error (.abort e) | .error (.fail e _) | .error (.rollback e) => .error e
            | .error (.ignore db) => pure db
          else pure db
        pure (emptied.removeTable t.name)
      | some (.view v) => schemaError ("use DROP VIEW to delete view " ++ v.name)
      | _ => if ie then pure db else schemaError ("no such table: " ++ name)
    | .view =>
      match db.find? name with
      | some (.view v) => pure (db.remove .view v.name)
      | some (.table t) => schemaError ("use DROP TABLE to delete table " ++ t.name)
      | _ => if ie then pure db else schemaError ("no such view: " ++ name)
    | .index =>
      match db.find? name with
      | some (.index i) =>
        if i.automatic then schemaError "index associated with UNIQUE or PRIMARY KEY constraint cannot be dropped"
        else pure (db.remove .index i.name)
      | _ => if ie then pure db else schemaError ("no such index: " ++ name)
    | .trigger =>
      match db.trigger? name with
      | some tr => pure (db.remove .trigger tr.name)
      | none => if ie then pure db else schemaError ("no such trigger: " ++ name)
  | .renameTable table newName => do
    let some t := db.table? table
      | if (db.view? table).isSome then schemaError ("view " ++ table ++ " may not be altered")
        else schemaError ("no such table: " ++ table)
    if isReservedName t.name then schemaError ("table " ++ t.name ++ " may not be altered")
    if (db.find? newName).isSome then
      schemaError ("there is already another table or index with this name: " ++ newName)
    if isReservedName newName then schemaError ("object name reserved for internal use: " ++ newName)
    pure (db.renameTable t.name newName)
  | .renameColumn table old new => do
    let some t := db.table? table
      | if (db.view? table).isSome then schemaError ("cannot rename columns of view \"" ++ table ++ "\"")
        else schemaError ("no such table: " ++ table)
    if isReservedName t.name then schemaError ("table " ++ t.name ++ " may not be altered")
    if (t.columnIndex? old).isNone then schemaError ("no such column: \"" ++ old ++ "\"")
    if (t.columns.any fun c => c.named new && !c.named old) then schemaError ("duplicate column name: " ++ new)
    pure (db.renameColumn t.name old new)
  | .addColumn table c => do
    let some t := db.table? table
      | if (db.view? table).isSome then schemaError "Cannot add a column to a view"
        else schemaError ("no such table: " ++ table)
    if isReservedName t.name then schemaError ("table " ++ t.name ++ " may not be altered")
    if t.columns.any (·.named c.name) then schemaError ("duplicate column name: " ++ c.name)
    if c.primaryKey then schemaError "Cannot add a PRIMARY KEY column"
    if c.unique then schemaError "Cannot add a UNIQUE column"
    let dflt ← match c.default with
      | some d => match eval 64 { db } [] d with
        | .ok v => pure v
        | .error _ => schemaError "Cannot add a column with non-constant default"
      | none => pure .null
    if db.foreignKeys && c.references.isSome && !dflt.isNull then
      schemaError "Cannot add a REFERENCES column with non-NULL default value"
    if c.notNull && dflt.isNull && !t.rows.isEmpty then
      schemaError "Cannot add a NOT NULL column with default value NULL"
    let v := dflt.withAffinity c.affinity
    let t := { t with columns := t.columns ++ [c], rows := t.rows.map fun (i, r) => (i, r ++ [v]) }
    let failing := t.rows.any fun (id, row) =>
      c.checks.any fun k =>
        match eval 64 { db } [{ frames := [t.frame none id row] }] k.condition with
        | .ok r => r.truth = some false
        | .error _ => false
    if failing then .error (.constraint "CHECK constraint failed")
    pure (db.setTable t)
  | .dropColumn table col => do
    let some t := db.table? table
      | if (db.view? table).isSome then schemaError ("cannot drop column from view \"" ++ table ++ "\"")
        else schemaError ("no such table: " ++ table)
    if isReservedName t.name then schemaError ("table " ++ t.name ++ " may not be altered")
    let some i := t.columnIndex? col | schemaError ("no such column: \"" ++ col ++ "\"")
    let c := t.columns.getD i default
    let inKey := c.primaryKey || (match t.keyConstraint? with
      | some (cs, _) => cs.any c.named
      | none => false)
    if inKey then schemaError ("cannot drop PRIMARY KEY column: \"" ++ c.name ++ "\"")
    if c.unique || (t.constraints.any fun
        | .unique cs _ => cs.any c.named
        | _ => false) then
      schemaError ("cannot drop UNIQUE column: \"" ++ c.name ++ "\"")
    if t.columns.length ≤ 1 then schemaError ("cannot drop column \"" ++ c.name ++ "\": no other columns exist")
    let used := (db.indexesOf t.name).find? fun ix => ix.terms.any (mentions · [c.name])
    if let some ix := used then
      schemaError ("error in index " ++ ix.name ++ " after drop column: no such column: " ++ c.name)
    let t := { t with columns := t.columns.eraseIdx i, rows := t.rows.map fun (id, r) => (id, r.eraseIdx i) }
    pure (db.setTable t)
  | _ => pure db

end PassPlan.Sql
