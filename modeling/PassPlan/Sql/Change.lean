import PassPlan.Sql.Check
/-!
Statements that change rows. An insertion fills each row from the values given, the columns'
defaults and nulls, brings each value to its column's affinity, fires the triggers before it,
picks the row id, checks the not-null columns, the check constraints, the row id and the
uniqueness constraints in turn, stores the row and fires the triggers after it. An update reads
each row its filter holds for, computes the new values from the old row, and goes through the
same steps for the columns it assigns; a deletion fires its triggers around removing the row.
A clash is resolved by the statement's `OR` clause when it has one, else by the constraint's
own: `ABORT` undoes the statement, `FAIL` keeps what it did before, `ROLLBACK` ends the
transaction, `IGNORE` skips the row and `REPLACE` removes the rows in the way. Removing or
changing a parent row applies the actions of the foreign keys that name it; whether every
foreign key still finds its parent is judged when the statement ends.
-/
namespace PassPlan.Sql

/-- What the rows of a change run with: the bound parameters, the trigger rows in sight, the
conflict handling the statement that fired a trigger asked for, and the triggers running. -/
structure Run where
  params : List Value := []
  outer : Env := []
  conflict : Option Conflict := none
  active : List String := []
  /-- Whether the rows change without firing triggers, as a table being dropped empties. -/
  quiet : Bool := false

/-- The name of the table that remembers the largest row id each table with `AUTOINCREMENT`
has used. -/
def sequenceTable : String := "sqlite_sequence"

/-- The largest row id a table has used, by the sequence table. -/
def Database.sequenceOf (db : Database) (table : String) : Int :=
  match db.table? sequenceTable with
  | some st => (st.rows.findSome? fun (_, r) => match r with
      | [.text n, .int s] => if sameName n table then some s else none
      | _ => none).getD 0
  | none => 0

/-- Records in the sequence table that a table used a row id. -/
def Database.noteSequence (db : Database) (table : String) (rowid : Int) : Database :=
  match db.table? sequenceTable with
  | some st =>
    let hit := st.rows.any fun (_, r) => match r with
      | .text n :: _ => sameName n table
      | _ => false
    if hit then
      db.setTable { st with rows := st.rows.map fun (i, r) => match r with
        | [.text n, s] => if sameName n table then (i, [.text n, .int (max s.toInt rowid)]) else (i, r)
        | _ => (i, r) }
    else
      let next := ((st.rows.map (·.1)).foldl max 0) + 1
      db.setTable (st.putRow next [.text table, .int rowid])
  | none => db

/-- The row id a new row of a table gets. -/
def Database.nextRowid (db : Database) (t : Table) : Int :=
  let top := (t.rows.map (·.1)).foldl max 0
  if t.autoincrement then max top (db.sequenceOf t.name) + 1 else top + 1

/-- A row of a table as a frame of a query. -/
def Table.frame (t : Table) (label : Option String) (rowid : Int) (row : List Value) : Frame :=
  { info := t.info label, values := row, rowid := .int rowid }

/-- A row of a table that only qualified names reach: `NEW`, `OLD` or `excluded`. -/
def Table.pseudo (t : Table) (name : String) (rowid : Int) (row : List Value) : Frame :=
  { info := { t.info (some name) with qualifiedOnly := true }, values := row, rowid := .int rowid }

/-- The affinity of a declared column. -/
def ColumnDef.affinity (c : ColumnDef) : Affinity := Affinity.ofType c.declType

/-- The failure of a constraint under a conflict handling. -/
def violation {α : Type} (c : Conflict) (msg : String) (db : Database) : ExecM α :=
  match c with
  | .fail => throw (.fail (.constraint msg) db)
  | .rollback => throw (.rollback (.constraint msg))
  | _ => throw (.abort (.constraint msg))

/-- A computation that a trigger may ask to skip: the database it left, or its result. -/
def skippable {α : Type} (x : ExecM α) : ExecM (Sum Database α) :=
  match x with
  | .error (.ignore db) => pure (.inl db)
  | .error e => throw e
  | .ok a => pure (.inr a)

/-- A uniqueness constraint as it is checked: its terms, the columns they are when they are
plain columns, its conflict handling, its condition and its name. -/
structure UniqueKey where
  name : String
  terms : List Expr
  columns : Option (List String)
  conflict : Conflict
  filter : Option Expr := none

/-- The columns a list of index terms names, when each is a plain column. -/
def plainColumns (terms : List Expr) : Option (List String) :=
  terms.mapM fun
    | .column none c _ => some c
    | .collate (.column none c _) _ => some c
    | _ => none

/-- Adds an index to the front of the checking order, behind those that do not replace when it
replaces. -/
def linkKey (keys : List UniqueKey) (k : UniqueKey) : List UniqueKey :=
  match keys with
  | [] => [k]
  | first :: _ =>
    if k.conflict ≠ .replace || first.conflict = .replace then k :: keys
    else
      let before := keys.takeWhile (·.conflict ≠ .replace)
      before ++ k :: keys.drop before.length

/-- The uniqueness constraints of a table in the order they are checked. -/
def Database.uniqueKeys (db : Database) (t : Table) : List UniqueKey :=
  let own := t.uniqueGroups.zipIdx.map fun ((cs, c), i) =>
    ({ name := "sqlite_autoindex_" ++ t.name ++ "_" ++ toString (i + 1)
       terms := cs.map fun n => Expr.column none n false, columns := some cs, conflict := c } : UniqueKey)
  let made := (db.uniqueIndexes t.name).map fun i =>
    ({ name := i.name, terms := i.terms, columns := plainColumns i.terms, conflict := i.onConflict
       filter := i.filter } : UniqueKey)
  (own ++ made).foldl linkKey []

/-- The message of a clash on a uniqueness constraint. -/
def UniqueKey.message (k : UniqueKey) (t : Table) : String :=
  match k.columns with
  | some cs =>
    "UNIQUE constraint failed: " ++ ", ".intercalate (cs.map fun c =>
      t.name ++ "." ++ ((t.columns.find? (·.named c)).map (·.name)).getD c)
  | none => "UNIQUE constraint failed: index '" ++ k.name ++ "'"

/-- The parent columns a foreign key names: as written, or the parent's primary key. -/
def parentColumns (parent : Table) (r : Reference) : List String :=
  if !r.columns.isEmpty then r.columns
  else match parent.rowidColumn? with
    | some i => [(parent.columns.getD i default).name]
    | none =>
      match parent.keyConstraint? with
      | some (cs, _) => cs
      | none => (parent.columns.filter (·.primaryKey)).map (·.name)

/-- Whether a child's key values name a parent row, each brought to the parent column's
affinity and compared in its collation. -/
def keyMatches (parent : Table) (pcs : List String) (prow : List Value) (key : List Value) : Bool :=
  pcs.length = key.length && (pcs.zip key).all fun (c, v) =>
    match parent.columns.find? (·.named c) with
    | some col =>
      let pv := parent.cell prow c
      !pv.isNull && (v.withAffinity col.affinity).compareWith col.collation pv = .eq
    | none => false

/-- How many rows of the database name a parent row that does not exist. -/
def Database.foreignKeyViolations (db : Database) : Nat :=
  db.objects.foldl (fun acc o => match o with
    | .table t => t.foreignKeys.foldl (fun a (cs, r) =>
        match db.table? r.table with
        | none => a
        | some p =>
          let pcs := parentColumns p r
          a + (t.rows.filter fun (_, row) =>
            let key := cs.map (t.cell row)
            !key.any (·.isNull) && !(p.rows.any fun (_, prow) => keyMatches p pcs prow key)).length) acc
    | _ => acc) 0

/-- Whether a check constraint names one of some columns. -/
def mentions (e : Expr) (cols : List String) : Bool :=
  go 64 e
where
  go : Nat → Expr → Bool
    | 0, _ => true
    | n + 1, e =>
      match e with
      | .column _ c _ => cols.any (sameName · c) || isRowidName c
      | .unary _ a | .isNull a _ | .cast a _ | .collate a _ => go n a
      | .binary _ a b => go n a || go n b
      | .like _ a p esc _ => go n a || go n p || (esc.map (go n)).getD false
      | .between a lo hi _ => go n a || go n lo || go n hi
      | .inList a items _ => go n a || items.any (go n)
      | .call _ args _ _ => args.any (go n)
      | .case o arms other =>
        (o.map (go n)).getD false || arms.any (fun (w, t) => go n w || go n t) || (other.map (go n)).getD false
      | .row items => items.any (go n)
      | .inSelect _ _ _ | .exists _ | .scalar _ => true
      | _ => false

/-- The values of a row with the not-null columns checked: a null in such a column takes the
column's default under `REPLACE` when it has one, skips the row under `IGNORE`, and fails
otherwise. Only the columns named are checked when some are. -/
def fillNotNull (ctx : Ctx) (t : Table) (conflict : Option Conflict) (only : Option (List String))
    (vals : List Value) : ExecM (Option (List Value)) :=
  (t.columns.zip vals).zipIdx.foldlM (fun acc ((c, v), i) => do
    match acc with
    | none => pure none
    | some row =>
      let checked := match only with
        | some cs => cs.any c.named
        | none => true
      if !c.notNull || !v.isNull || t.rowidColumn? = some i || !checked then pure (some row)
      else
        let msg := "NOT NULL constraint failed: " ++ t.name ++ "." ++ c.name
        match conflict.getD c.onConflict with
        | .ignore => pure none
        | .replace =>
          match c.default with
          | some d => do
            let dv := (← eval 64 ctx [] d).withAffinity c.affinity
            if dv.isNull then violation .abort msg ctx.db
            else pure (some (row.set i dv))
          | none => violation .abort msg ctx.db
        | k => violation k msg ctx.db) (some vals)

/-- Whether a row satisfies the check constraints of its table: false when one fails under
`IGNORE`, a failure under the other handlings. Only the constraints that name one of the
columns given are checked when some are. -/
def passesChecks (ctx : Ctx) (t : Table) (conflict : Option Conflict) (only : Option (List String))
    (rowid : Int) (vals : List Value) : ExecM Bool :=
  t.checks.foldlM (fun ok c => do
    if !ok then return false
    let relevant := match only with
      | some cs => mentions c.condition cs
      | none => true
    if !relevant then return true
    let v ← eval 64 ctx [{ frames := [t.frame none rowid vals] }] c.condition
    if v.truth = some false then
      let msg := "CHECK constraint failed: " ++ (c.name.getD c.source)
      match conflict.getD .abort with
      | .ignore => pure false
      | .replace => violation .abort msg ctx.db
      | k => violation k msg ctx.db
    else pure true) true

/-- The values of a uniqueness constraint's terms for a row, and whether its condition holds
for the row. -/
def keyOf (ctx : Ctx) (t : Table) (k : UniqueKey) (rowid : Int) (row : List Value) :
    ExecM (List Value × Bool) := do
  let env : Env := [{ frames := [t.frame none rowid row] }]
  let vals ← k.terms.mapM (eval 64 ctx env)
  let holds ← match k.filter with
    | some f => do pure ((← eval 64 ctx env f).truth == some true)
    | none => pure true
  pure (vals, holds)

/-- The collations of a uniqueness constraint's terms. -/
def keyCollations (t : Table) (k : UniqueKey) : List Collation :=
  k.terms.map fun e => match e with
    | .collate _ c => collationNamed c
    | .column none c _ => ((t.columns.find? (·.named c)).map (·.collation)).getD .binary
    | _ => .binary

/-- The rows other than one that clash with a row on a uniqueness constraint. -/
def clashes (ctx : Ctx) (t : Table) (k : UniqueKey) (rowid : Int) (row : List Value) : ExecM (List Int) := do
  let (key, holds) ← keyOf ctx t k rowid row
  if key.any (·.isNull) || !holds then return []
  let colls := keyCollations t k
  t.rows.filterMapM fun (id, other) => do
    if id = rowid then return none
    let (okey, oholds) ← keyOf ctx t k id other
    let same := oholds && key.length = okey.length &&
      ((key.zip okey).zip colls).all fun ((a, b), c) => !b.isNull && a.compareWith c b = .eq
    pure (if same then some id else none)

/-- The column that upsert targets name, matched against the row id and the uniqueness
constraints. -/
def upsertKey? (db : Database) (t : Table) (target : List String) : Option (Option UniqueKey) :=
  let isRowid := match target, t.rowidColumn? with
    | [c], some i => (t.columns.getD i default).named c
    | _, _ => false
  if isRowid then some none
  else
    ((db.uniqueKeys t).find? fun k =>
      match k.columns with
      | some cs => cs.length = target.length && cs.all (fun c => target.any (sameName · c))
      | none => false).map some

mutual

/-- Inserts one row given as the value for each column, if given, and an explicit row id:
the database after it and the stored row, none when the row was skipped. -/
def insertRow : Nat → Run → Database → String → Option Conflict → List (Option Value) → Option Value →
    List Upsert → ExecM (Database × Option (Int × List Value))
  | 0, _, _, _, _, _, _, _ => logicError "trigger programs nested too deeply"
  | n + 1, run, db, name, conflict, given, explicitRowid, upserts => do
    let some t := db.table? name | logicError ("no such table: " ++ name)
    let ctx : Ctx := { db, params := run.params }
    let vals ← (t.columns.zip given).mapM fun (c, g) => match g with
      | some v => pure v
      | none => match c.default with
        | some d => eval n ctx [] d
        | none => pure .null
    let rowidValue : Value := match explicitRowid, t.rowidColumn? with
      | some v, _ => v
      | none, some i => vals.getD i .null
      | none, none => .null
    let vals := (t.columns.zip vals).map fun (c, v) => v.withAffinity c.affinity
    let givenRowid ← if rowidValue.isNull then pure none
      else match rowidValue.withAffinity .integer with
        | .int i => pure (some i)
        | _ => throw (.abort .mismatch)
    let withRowid (id : Int) (vs : List Value) : List Value := match t.rowidColumn? with
      | some i => vs.set i (.int id)
      | none => vs
    let early := withRowid (givenRowid.getD (-1)) vals
    match ← skippable (fire n run db name .before .insert none (some (givenRowid.getD (-1), early)) []) with
    | .inl db => pure (db, none)
    | .inr db => do
    let some t := db.table? name | pure (db, none)
    let ctx : Ctx := { db, params := run.params }
    let rowid := givenRowid.getD (db.nextRowid t)
    let vals := withRowid rowid vals
    let some vals ← fillNotNull ctx t conflict none vals | pure (db, none)
    if !(← passesChecks ctx t conflict none rowid vals) then return (db, none)
    -- an upsert takes over a clash on its target
    let upserted ← upserts.foldlM (fun (acc : Option (Database × Option (Int × List Value))) u => do
      if acc.isSome then return acc
      let key? := match u.target with
        | some cs => upsertKey? db t cs
        | none => none
      let hit : Option Int ← match u.target, key? with
        | some _, some none => pure (if (t.row? rowid).isSome then some rowid else none)
        | some _, some (some k) => do pure (← clashes ctx t k rowid vals).head?
        | none, _ => do
          if (t.row? rowid).isSome then pure (some rowid)
          else
            let found ← (db.uniqueKeys t).foldlM (fun (h : Option Int) k => do
              if h.isSome then return h
              pure (← clashes ctx t k rowid vals).head?) none
            pure found
        | some _, none => pure none
      match hit with
      | none => pure none
      | some other =>
        match u.action with
        | .nothing => pure (some (db, none))
        | .update sets filter => do
          let excluded := t.pseudo "excluded" rowid vals
          let pass ← match filter with
            | some f =>
              match t.row? other with
              | some orow => do
                let env : Env := { frames := [t.frame none other orow, excluded] } :: run.outer
                pure ((← eval n ctx env f).truth == some true)
              | none => pure false
            | none => pure true
          if !pass then return some (db, none)
          let flat := sets.flatMap fun (cs, e) => cs.map (·, e)
          let r ← updateRow n run db name conflict none flat [excluded] other
          pure (some r)) none
    match upserted with
    | some r => pure r
    | none => do
    -- the row id
    let kept ← if (t.row? rowid).isSome then
        let col := match t.rowidColumn? with
          | some i => (t.columns.getD i default).name
          | none => "rowid"
        let msg := "UNIQUE constraint failed: " ++ t.name ++ "." ++ col
        match conflict.getD t.rowidConflict with
        | .ignore => pure none
        | .replace => do
          let (db, _) ← deleteRow n run db name rowid true
          pure (some db)
        | k => violation k msg db
      else pure (some db)
    let some db := kept | pure (db, none)
    let some t := db.table? name | pure (db, none)
    let some db ← uniquePass n run db t conflict rowid vals none | pure (db, none)
    let some t := db.table? name | pure (db, none)
    let db := db.setTable (t.putRow rowid vals)
    let db := if t.autoincrement then db.noteSequence t.name rowid else db
    let db := { db with lastRowid := rowid }
    let db ← fire n run db name .after .insert none (some (rowid, vals)) []
    pure (db, some (rowid, vals))

/-- Checks a row against the uniqueness constraints of its table, removing the rows in the way
of a constraint that replaces: the database after it, none when the row is skipped. -/
def uniquePass : Nat → Run → Database → Table → Option Conflict → Int → List Value →
    Option (List String) → ExecM (Option Database)
  | 0, _, _, _, _, _, _, _ => logicError "trigger programs nested too deeply"
  | n + 1, run, db, t, conflict, rowid, vals, only =>
    (db.uniqueKeys t).foldlM (fun (acc : Option Database) k => do
      match acc with
      | none => pure none
      | some db =>
        let relevant := match only with
          | some cs => k.terms.any fun e => mentions e cs
          | none => true
        if !relevant then return some db
        let some t := db.table? t.name | pure (some db)
        let ctx : Ctx := { db, params := run.params }
        let others ← clashes ctx t k rowid vals
        if others.isEmpty then return some db
        match conflict.getD k.conflict with
        | .ignore => pure none
        | .replace => do
          let db ← others.foldlM (fun db id => do
            let (db, _) ← deleteRow n run db t.name id true
            pure db) db
          pure (some db)
        | c => violation c (k.message t) db) (some db)

/-- Updates one row: the assignments are evaluated on the old row, with more frames in sight;
the database after it and the stored row, none when the row is gone or skipped. -/
def updateRow : Nat → Run → Database → String → Option Conflict → Option String → List (String × Expr) →
    List Frame → Int → ExecM (Database × Option (Int × List Value))
  | 0, _, _, _, _, _, _, _, _ => logicError "trigger programs nested too deeply"
  | n + 1, run, db, name, conflict, label, sets, extra, rowid => do
    let some t := db.table? name | pure (db, none)
    let some old := t.row? rowid | pure (db, none)
    let ctx : Ctx := { db, params := run.params }
    let env : Env := { frames := t.frame label rowid old :: extra } :: run.outer
    let assigned ← sets.mapM fun (c, e) => do pure (c, ← eval n ctx env e)
    let names := assigned.map (·.1)
    let overlay (row : List Value) : List Value :=
      (t.columns.zip row).map fun (c, v) =>
        match (assigned.reverse.find? fun (a, _) => c.named a) with
        | some (_, nv) => nv.withAffinity c.affinity
        | none => v
    let newRowidValue : Option Value :=
      match assigned.reverse.find? fun (a, _) =>
        isRowidName a && (t.columns.find? (·.named a)).isNone ||
        (match t.rowidColumn? with
          | some i => (t.columns.getD i default).named a
          | none => false) with
      | some (_, v) => some v
      | none => none
    let newRowid ← match newRowidValue with
      | some v => match v.withAffinity .integer with
        | .int i => pure i
        | _ => throw (.abort .mismatch)
      | none => pure rowid
    let withRowid (vs : List Value) : List Value := match t.rowidColumn? with
      | some i => vs.set i (.int newRowid)
      | none => vs
    let early := withRowid (overlay old)
    match ← skippable (fire n run db name .before (.update names) (some (rowid, old)) (some (newRowid, early)) names) with
    | .inl db => pure (db, none)
    | .inr db => do
    let some t := db.table? name | pure (db, none)
    let some current := t.row? rowid | pure (db, none)
    let ctx : Ctx := { db, params := run.params }
    let vals := withRowid (overlay current)
    let some vals ← fillNotNull ctx t conflict (some names) vals | pure (db, none)
    if !(← passesChecks ctx t conflict (some names) newRowid vals) then return (db, none)
    let kept ← if newRowid ≠ rowid && (t.row? newRowid).isSome then
        let col := match t.rowidColumn? with
          | some i => (t.columns.getD i default).name
          | none => "rowid"
        let msg := "UNIQUE constraint failed: " ++ t.name ++ "." ++ col
        match conflict.getD t.rowidConflict with
        | .ignore => pure none
        | .replace => do
          let (db, _) ← deleteRow n run db name newRowid true
          pure (some db)
        | k => violation k msg db
      else pure (some db)
    let some db := kept | pure (db, none)
    let some t := db.table? name | pure (db, none)
    let some db ← uniquePass n run db { t with rows := t.rows.filter (·.1 ≠ rowid) } conflict newRowid vals (some names)
      | pure (db, none)
    let some t := db.table? name | pure (db, none)
    let t := if newRowid = rowid then t.putRow rowid vals else (t.dropRow rowid).putRow newRowid vals
    let db := db.setTable t
    let db := if t.autoincrement && newRowid ≠ rowid then db.noteSequence t.name newRowid else db
    let db ← parentActions n run db t current (some vals)
    let db ← fire n run db name .after (.update names) (some (rowid, current)) (some (newRowid, vals)) names
    pure (db, some (newRowid, vals))

/-- Deletes one row; `replacing` when a constraint removes it to make room, which fires
triggers only when they may fire recursively. The database after it and the old row, none when
it was gone or skipped. -/
def deleteRow : Nat → Run → Database → String → Int → Bool → ExecM (Database × Option (List Value))
  | 0, _, _, _, _, _ => logicError "trigger programs nested too deeply"
  | n + 1, run, db, name, rowid, replacing => do
    let some t := db.table? name | pure (db, none)
    let some old := t.row? rowid | pure (db, none)
    let triggers := !replacing || db.recursiveTriggers
    let before ← if triggers then skippable (fire n run db name .before .delete (some (rowid, old)) none [])
      else pure (.inr db)
    match before with
    | .inl db => pure (db, none)
    | .inr db => do
    let some t := db.table? name | pure (db, none)
    let some old := t.row? rowid | pure (db, none)
    let db := db.setTable (t.dropRow rowid)
    let db ← parentActions n run db t old none
    let db ← if triggers then fire n run db name .after .delete (some (rowid, old)) none [] else pure db
    pure (db, some old)

/-- Applies the actions of the foreign keys that name a parent row that was deleted, or updated
to new values. -/
def parentActions : Nat → Run → Database → Table → List Value → Option (List Value) → ExecM Database
  | 0, _, _, _, _, _ => logicError "trigger programs nested too deeply"
  | n + 1, run, db, parent, old, new => do
    if !db.foreignKeys then return db
    let run := { run with quiet := false }
    (db.childrenOf parent.name).foldlM (fun db (child, cs, r) => do
      let pcs := parentColumns parent r
      let oldKey := pcs.map (parent.cell old)
      if oldKey.any (·.isNull) then return db
      let newKey := new.map fun row => pcs.map (parent.cell row)
      if let some nk := newKey then
        if nk.length = oldKey.length && (nk.zip oldKey).all (fun (a, b) => a.compare b = .eq) then return db
      let some c := db.table? child.name | pure db
      let hits := (c.rows.filter fun (_, row) =>
        keyMatches parent pcs old (cs.map (c.cell row))).map (·.1)
      let action := if new.isSome then r.onUpdate else r.onDelete
      let setTo (vals : List Value) : List (String × Expr) := cs.zip (vals.map Expr.lit)
      match action with
      | .noAction => pure db
      | .restrict =>
        if hits.isEmpty then pure db else throw (.abort (.constraint "FOREIGN KEY constraint failed"))
      | .cascade =>
        match newKey with
        | none => hits.foldlM (fun db id => do pure (← deleteRow n run db c.name id false).1) db
        | some nk => hits.foldlM (fun db id => do pure (← updateRow n run db c.name none none (setTo nk) [] id).1) db
      | .setNull =>
        hits.foldlM (fun db id => do
          pure (← updateRow n run db c.name none none (setTo (cs.map fun _ => .null)) [] id).1) db
      | .setDefault => do
        let ctx : Ctx := { db, params := run.params }
        let defaults ← cs.mapM fun col =>
          match (c.columns.find? (·.named col)).bind (·.default) with
          | some d => eval n ctx [] d
          | none => pure .null
        hits.foldlM (fun db id => do pure (← updateRow n run db c.name none none (setTo defaults) [] id).1) db) db

/-- Fires the triggers of an event on a table, the most recent first, with the old and new
rows in sight; an update trigger that watches columns fires only when one is assigned. -/
def fire : Nat → Run → Database → String → Timing → Event → Option (Int × List Value) →
    Option (Int × List Value) → List String → ExecM Database
  | 0, _, _, _, _, _, _, _, _ => logicError "trigger programs nested too deeply"
  | n + 1, run, db, name, timing, event, old, new, assigned =>
    let triggers := if run.quiet then [] else (db.triggersOn name timing event).reverse.filter fun tr =>
      (db.recursiveTriggers || !run.active.any (sameName · tr.name)) &&
      match tr.event with
      | .update cols => cols.isEmpty || cols.any fun c => assigned.any (sameName · c)
      | _ => true
    triggers.foldlM (fun db tr => do
      let some t := db.table? name | pure db
      let frames := [new.map (fun (id, r) => t.pseudo "new" id r), old.map (fun (id, r) => t.pseudo "old" id r)].reduceOption
      let env : Env := [{ frames }]
      let ctx : Ctx := { db, params := run.params }
      let go ← match tr.condition with
        | some c => do pure ((← eval n ctx env c).truth == some true)
        | none => pure true
      if !go then return db
      let inner : Run := { run with outer := env, active := tr.name :: run.active }
      tr.body.foldlM (fun db s => do pure (← change n inner db s).1) db) db

/-- Runs a change statement or a query: the database after it, the rows it returns and how
many rows it changed. -/
def change : Nat → Run → Database → Stmt → ExecM (Database × List (List Value) × Nat)
  | 0, _, _, _ => logicError "trigger programs nested too deeply"
  | n + 1, run, db, stmt =>
    match stmt with
    | .select q => do
      let rows ← runSelect n { db, params := run.params } run.outer q
      pure (db, rows, 0)
    | .insert conflict name label cols source upserts returning => do
      let conflict := run.conflict <|> conflict
      let some t := db.table? name | logicError ("no such table: " ++ name)
      let targets : List (Option Nat) := match cols with
        | some cs => cs.map fun c => t.columnIndex? c
        | none => t.columns.zipIdx.map fun (_, i) => some i
      -- a column named twice takes its first value; the row id takes the last value given to
      -- it, by its own name or by the column that is the row id
      let place (vs : List Value) : List (Option Value) × Option Value :=
        let pairs := targets.zip vs
        (t.columns.zipIdx.map fun (_, i) => (pairs.find? (·.1 = some i)).map (·.2),
          (pairs.reverse.find? fun (p, _) => p.isNone || (p.isSome && p = t.rowidColumn?)).map (·.2))
      let ctx : Ctx := { db, params := run.params }
      let insertOne (acc : Database × List (List Value) × Nat) (vs : List Value) :
          ExecM (Database × List (List Value) × Nat) := do
        let (db, out, count) := acc
        let (given, rowid) := place vs
        let (db, stored) ← insertRow n run db name conflict given rowid upserts
        match stored with
        | some (id, row) => do
          let ret ← returned n run db t label returning id row
          pure (db, out ++ ret, count + 1)
        | none => pure (db, out, count)
      match source with
      | .defaults => insertOne (db, [], 0) []
      | .values rows =>
        rows.foldlM (fun acc r => do
          let vs ← r.mapM (eval n { db := acc.1, params := run.params } run.outer)
          insertOne acc vs) (db, [], 0)
      | .query q => do
        let rows ← runSelect n ctx run.outer q
        rows.foldlM insertOne (db, [], 0)
    | .update conflict name label sets filter returning => do
      let conflict := run.conflict <|> conflict
      let some t := db.table? name | logicError ("no such table: " ++ name)
      let ctx : Ctx := { db, params := run.params }
      let ids ← (t.rows.filterM fun (id, row) => do
        match filter with
        | some f => pure ((← eval n ctx ({ frames := [t.frame label id row] } :: run.outer) f).truth == some true)
        | none => pure true)
      let flat := sets.flatMap fun (cs, e) =>
        match cs, e with
        | [c], e => [(c, e)]
        | cs, .row items => cs.zip items
        | cs, e => cs.map (·, e)
      ids.foldlM (fun (acc : Database × List (List Value) × Nat) (id, _) => do
        let (db, out, count) := acc
        let (db, stored) ← updateRow n run db name conflict label flat [] id
        match stored with
        | some (nid, row) => do
          let ret ← returned n run db t label returning nid row
          pure (db, out ++ ret, count + 1)
        | none => pure (db, out, count)) (db, [], 0)
    | .delete name label filter returning => do
      let some t := db.table? name | logicError ("no such table: " ++ name)
      let ctx : Ctx := { db, params := run.params }
      let ids ← (t.rows.filterM fun (id, row) => do
        match filter with
        | some f => pure ((← eval n ctx ({ frames := [t.frame label id row] } :: run.outer) f).truth == some true)
        | none => pure true)
      ids.foldlM (fun (acc : Database × List (List Value) × Nat) (id, _) => do
        let (db, out, count) := acc
        let (db, gone) ← deleteRow n run db name id false
        match gone with
        | some row => do
          let ret ← returned n run db t label returning id row
          pure (db, out ++ ret, count + 1)
        | none => pure (db, out, count)) (db, [], 0)
    | _ => logicError "not a change statement"

/-- The rows a `RETURNING` clause gives for a changed row. -/
def returned : Nat → Run → Database → Table → Option String → List ResultColumn → Int → List Value →
    ExecM (List (List Value))
  | 0, _, _, _, _, _, _, _ => logicError "trigger programs nested too deeply"
  | n + 1, run, db, t, label, cols, rowid, row =>
    if cols.isEmpty then pure []
    else do
      let vs ← resultValues n { db, params := run.params } ({ frames := [t.frame label rowid row] } :: run.outer) cols
      pure [vs]

end

end PassPlan.Sql
