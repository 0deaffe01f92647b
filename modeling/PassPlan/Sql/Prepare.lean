import PassPlan.Sql.Change
/-!
Checking a change statement before it runs. The table must exist and be one that may change;
an insertion's column names must be columns, and it must give as many values as it names
columns, or as the table has; an update assigns only columns; an upsert must name the columns
of a uniqueness constraint. With foreign keys enforced, every parent a changed table names must
exist with a uniqueness constraint on the columns it refers to, and so must those of the tables
that name it. The programs of the triggers a statement can fire are checked with it, the rows
`NEW` and `OLD` in sight; a trigger already being checked is not checked again.
-/
namespace PassPlan.Sql

/-- The table a change statement names, or why it cannot change. -/
def changedTable (db : Database) (qualified : Bool) (name : String) : Except String Table :=
  if Database.isCatalog name then .error "table sqlite_master may not be modified"
  else
    match db.table? name with
    | some t => .ok t
    | none =>
      match db.view? name with
      | some v => .error ("cannot modify " ++ v.name ++ " because it is a view")
      | none => .error (missingTable qualified name)

/-- Whether a foreign key's parent columns carry a uniqueness constraint of exactly those
columns, or are the parent's row id or primary key. -/
def Database.parentKeyed (db : Database) (parent : Table) (r : Reference) (width : Nat) : Bool :=
  let pcs := parentColumns parent r
  let same (cs : List String) := cs.length = pcs.length && cs.all fun c => pcs.any (sameName · c)
  pcs.length = width && pcs.all (fun c => (parent.columnIndex? c).isSome) &&
    ((match parent.rowidColumn? with
      | some i => pcs.length = 1 && (parent.columns.getD i default).named (pcs.headD "")
      | none => false) ||
    parent.uniqueGroups.any (fun (cs, _) => same cs) ||
    (db.uniqueIndexes parent.name).any fun i => i.filter.isNone && (plainColumns i.terms).any same)

/-- Checks the parents of a table's foreign keys: each must exist and be keyed on the columns
named. Only keys over the columns given count when some are. -/
def checkParents (db : Database) (t : Table) (cols : Option (List String)) : Except String Unit := do
  if !db.foreignKeys then return
  for (cs, r) in t.foreignKeys do
    let touched := match cols with
      | some names => cs.any (fun c => names.any (sameName · c)) || sameName r.table t.name
      | none => true
    if touched then
      match db.table? r.table with
      | none => throw ("no such table: main." ++ r.table)
      | some p =>
        if !db.parentKeyed p r cs.length then
          throw ("foreign key mismatch - \"" ++ t.name ++ "\" referencing \"" ++ r.table ++ "\"")

/-- Checks the foreign keys that name a table: each must find the table keyed on the columns
it refers to. Only keys over the columns given count when some are. -/
def checkChildren (db : Database) (t : Table) (cols : Option (List String)) : Except String Unit := do
  if !db.foreignKeys then return
  for (child, cs, r) in db.childrenOf t.name do
    let touched := match cols with
      | some names => (parentColumns t r).any fun c => names.any (sameName · c)
      | none => true
    if touched && !db.parentKeyed t r cs.length then
      throw ("foreign key mismatch - \"" ++ child.name ++ "\" referencing \"" ++ r.table ++ "\"")

/-- Checks the result columns of a `RETURNING` clause. -/
def checkReturning (db : Database) (env : Env) (allow : Allowance) (cols : List ResultColumn) :
    Except String Unit :=
  cols.forM fun
    | .expr e _ _ => checkOne db env allow e
    | _ => pure ()

mutual

/-- Checks a change statement or a query, inside a trigger program when `qualified`. -/
def checkChange : Nat → Database → Env → Bool → List String → Stmt → Except String Unit
  | 0, _, _, _, _, _ => pure ()
  | n + 1, db, env, qualified, seen, stmt =>
    let allow : Allowance := { raise := qualified }
    match stmt with
    | .select q => do let _ ← checkQuery db env allow qualified q
    | .insert _ name label cols source upserts returning => do
      let t ← changedTable db qualified name
      if let some cs := cols then
        for c in cs do
          if (t.columnIndex? c).isNone && !isRowidName c then
            throw ("table " ++ name ++ " has no column named " ++ c)
      let width ← match source with
        | .defaults => pure none
        | .values [row] => do
          row.forM (checkOne db env allow)
          pure (some row.length)
        | .values rows => do
          let cs ← checkQuery db env allow qualified (.mk [] (.values rows) [] [] none none)
          pure (some cs.length)
        | .query q => do
          let cs ← checkQuery db env allow qualified q
          pure (some cs.length)
      match width, cols with
      | some w, none =>
        if w ≠ t.columns.length then
          throw ("table " ++ name ++ " has " ++ toString t.columns.length ++ " columns but " ++
            toString w ++ " values were supplied")
      | some w, some cs =>
        if w ≠ cs.length then throw (toString w ++ " values for " ++ toString cs.length ++ " columns")
      | none, _ => pure ()
      for u in upserts do
        if let some target := u.target then
          if (upsertKey? db t target).isNone then
            throw "ON CONFLICT clause does not match any PRIMARY KEY or UNIQUE constraint"
        match u.action with
        | .update sets filter =>
          let scope : Env := { frames := [(t.info label).empty,
            { (t.info (some "excluded")).empty with info := { t.info (some "excluded") with qualifiedOnly := true } }] } :: env
          for (cs, e) in sets do
            checkOne db scope allow e
            for c in cs do
              if (t.columnIndex? c).isNone && !isRowidName c then throw ("no such column: " ++ c)
          filter.forM (checkOne db scope allow)
        | .nothing => pure ()
      checkReturning db ({ frames := [(t.info label).empty] } :: env) allow returning
      checkTriggers n db t .before .insert [] seen
      checkParents db t none
      checkChildren db t none
      checkTriggers n db t .after .insert [] seen
    | .update _ name label sets filter returning => do
      let t ← changedTable db qualified name
      let scope : Env := { frames := [(t.info label).empty] } :: env
      for (cs, e) in sets do
        checkOne db scope allow e
        for c in cs do
          if (t.columnIndex? c).isNone && !isRowidName c then throw ("no such column: " ++ c)
        match cs, e with
        | [_], _ => pure ()
        | cs, .row items =>
          if cs.length ≠ items.length then
            throw (toString cs.length ++ " columns assigned " ++ toString items.length ++ " values")
        | cs, _ => throw (toString cs.length ++ " columns assigned 1 values")
      filter.forM (checkOne db scope allow)
      checkReturning db scope allow returning
      let names := sets.flatMap (·.1)
      checkTriggers n db t .before (.update names) names seen
      checkParents db t (some names)
      checkChildren db t (some names)
      checkTriggers n db t .after (.update names) names seen
    | .delete name label filter returning => do
      let t ← changedTable db qualified name
      let scope : Env := { frames := [(t.info label).empty] } :: env
      filter.forM (checkOne db scope allow)
      checkReturning db scope allow returning
      checkTriggers n db t .before .delete [] seen
      checkParents db t none
      checkChildren db t none
      checkTriggers n db t .after .delete [] seen
    | .withTables named s => checkChange n (db.withNamed named) env qualified seen s
    | _ => pure ()

/-- Checks the programs of the triggers an event on a table fires. -/
def checkTriggers : Nat → Database → Table → Timing → Event → List String → List String → Except String Unit
  | 0, _, _, _, _, _, _ => pure ()
  | n + 1, db, t, timing, event, assigned, seen =>
    let triggers := (db.triggersOn t.name timing event).reverse.filter fun tr =>
      !seen.any (sameName · tr.name) &&
      match tr.event with
      | .update cols => cols.isEmpty || cols.any fun c => assigned.any (sameName · c)
      | _ => true
    triggers.forM fun tr => do
      let frames := (match event with
        | .delete => []
        | _ => [{ (t.info (some "new")).empty with info := { t.info (some "new") with qualifiedOnly := true } }]) ++
        (match event with
        | .insert => []
        | _ => [{ (t.info (some "old")).empty with info := { t.info (some "old") with qualifiedOnly := true } }])
      let env : Env := [{ frames }]
      tr.condition.forM (checkOne db env { raise := true })
      tr.body.forM (checkChange n db env true (tr.name :: seen))

end

end PassPlan.Sql
