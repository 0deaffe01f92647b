import PassPlan.Sql.Parse
/-!
Reading statements: table, index, trigger and view definitions, their removal, changes to a
table's name and columns, insertions with their conflict handling and upserts, updates,
deletions, queries, pragmas and the statements that mark transactions. Statements are read
one at a time, each up to a semicolon; a trigger's program holds statements of its own, each
ended by a semicolon, up to `END`.

A check constraint keeps the text it was written as, blanks around it trimmed, since a failed
check names it.
-/
namespace PassPlan.Sql

open PassPlan.Sql.ParseM

/-- The conflict handling a clause names. -/
def conflictP : ParseM Conflict := do
  if (← kw "ROLLBACK") then return .rollback
  else if (← kw "ABORT") then return .abort
  else if (← kw "FAIL") then return .fail
  else if (← kw "IGNORE") then return .ignore
  else if (← kw "REPLACE") then return .replace
  else fail

/-- An optional `ON CONFLICT` clause of a constraint. -/
def onConflictP : ParseM Conflict := do
  if (← atKw "ON") then
    advance
    expectKw "CONFLICT"
    conflictP
  else return .abort

/-- A parenthesised condition and the text it was written as. -/
def checkBodyP (fuel : Nat) (name : Option String) : ParseM Check := do
  expectSym "("
  let before ← get
  let e ← exprP fuel
  let after ← get
  expectSym ")"
  return { condition := e, source := sourceOf before after, name }

/-- A default value: a parenthesised expression, a signed literal, or a word, which stands for
its own text unless it is `TRUE` or `FALSE`. -/
def defaultP (fuel : Nat) : ParseM Expr := do
  if (← sym "(") then
    let e ← exprP fuel
    expectSym ")"
    return e
  let neg ← sym "-"
  let pos ← if neg then pure false else sym "+"
  match (← peek) with
  | some t =>
    match t.kind with
    | .num raw => advance; return .lit (← liftParse (numberLiteral raw neg))
    | .str s => advance; return (if neg then .unary .neg (.lit (.text s)) else .lit (.text s))
    | .blob bs => advance; return (if neg then .unary .neg (.lit (.blob bs)) else .lit (.blob bs))
    | .word w =>
      let up := asciiUpper w
      if up = "NULL" then advance; return (if neg then .unary .neg (.lit .null) else .lit .null)
      else if up = "CURRENT_TIME" || up = "CURRENT_DATE" || up = "CURRENT_TIMESTAMP" then
        advance
        return .call (asciiLower w) [] false false
      else if neg || pos || isReserved w then fail
      else
        advance
        if up = "TRUE" then return .lit (.int 1)
        else if up = "FALSE" then return .lit (.int 0)
        else return .lit (.text w)
    | .quoted q => if neg || pos then fail else do advance; return .lit (.text q)
    | _ => fail
  | none => fail

/-- Names in parentheses, each with an optional collation and direction. -/
def indexedNamesP (fuel : Nat) : ParseM (List String) := do
  expectSym "("
  let rec more : Nat → ParseM (List String)
    | 0 => fail
    | k + 1 => do
      let nm ← nameP
      if (← kw "COLLATE") then let _ ← nameP
      let _ ← kw "ASC"
      let _ ← kw "DESC"
      if (← sym ",") then return nm :: (← more k) else return [nm]
  let ns ← more fuel
  expectSym ")"
  return ns

/-- The actions and options of a foreign key. -/
def refArgsP : Nat → Reference → ParseM Reference
  | 0, r => pure r
  | k + 1, r => do
    if (← atKw "ON") then
      advance
      let onDelete ← if (← kw "DELETE") then pure true else do expectKw "UPDATE"; pure false
      let action ← if (← kw "CASCADE") then pure FkAction.cascade
        else if (← kw "RESTRICT") then pure .restrict
        else if (← kw "SET") then do
          if (← kw "NULL") then pure .setNull else do expectKw "DEFAULT"; pure .setDefault
        else do expectKw "NO"; expectKw "ACTION"; pure .noAction
      refArgsP k (if onDelete then { r with onDelete := action } else { r with onUpdate := action })
    else if (← kw "MATCH") then
      let _ ← nameP
      refArgsP k r
    else return r

/-- An optional clause on when a foreign key is checked. -/
def deferP : ParseM Unit := do
  let notWord ← if (← atKw "NOT") then
      match (← peek2) with
      | some t => if isWord t "DEFERRABLE" then do advance; pure true else pure false
      | none => pure false
    else pure false
  if (← kw "DEFERRABLE") then
    if (← kw "INITIALLY") then
      if !(← kw "DEFERRED") then expectKw "IMMEDIATE"
  else if notWord then fail

/-- A foreign key's parent. -/
def referenceP (fuel : Nat) : ParseM Reference := do
  let t ← nameP
  let cols ← if (← atSym "(") then indexedNamesP fuel else pure []
  let r ← refArgsP fuel { table := t, columns := cols }
  deferP
  return r

/-- The constraints of a column. -/
def columnConstraints : Nat → Option String → ColumnDef → ParseM ColumnDef
  | 0, _, c => pure c
  | k + 1, name, c => do
    if (← kw "CONSTRAINT") then
      let nm ← nameP
      columnConstraints k (some nm) c
    else if (← kw "PRIMARY") then
      expectKw "KEY"
      let desc ← if (← kw "DESC") then pure true else do let _ ← kw "ASC"; pure false
      let conflict ← onConflictP
      let increasing ← kw "AUTOINCREMENT"
      columnConstraints k name
        { c with primaryKey := true, descending := desc, autoincrement := increasing, onConflict := conflict }
    else if (← atKw "NOT") then
      match (← peek2) with
      | some t =>
        if isWord t "NULL" then
          advance; advance
          let conflict ← onConflictP
          columnConstraints k name { c with notNull := true, onConflict := conflict }
        else if isWord t "DEFERRABLE" then
          deferP
          columnConstraints k name c
        else return c
      | none => return c
    else if (← kw "NULL") then
      let _ ← onConflictP
      columnConstraints k name c
    else if (← kw "UNIQUE") then
      let conflict ← onConflictP
      columnConstraints k name { c with unique := true, onConflict := conflict }
    else if (← kw "DEFAULT") then
      let v ← defaultP k
      columnConstraints k name { c with default := some v }
    else if (← kw "REFERENCES") then
      let r ← referenceP k
      columnConstraints k name { c with references := some r }
    else if (← kw "CHECK") then
      let ch ← checkBodyP k name
      columnConstraints k name { c with checks := c.checks ++ [ch] }
    else if (← kw "COLLATE") then
      let nm ← nameP
      match Collation.ofName? nm with
      | some coll => columnConstraints k name { c with collation := coll }
      | none => throw (.other ("no such collation sequence: " ++ nm))
    else if (← atKw "DEFERRABLE") then
      deferP
      columnConstraints k name c
    else return c

/-- A column definition. -/
def columnP (fuel : Nat) : ParseM ColumnDef := do
  let nm ← nameP
  let t ← typeNameP
  columnConstraints fuel none { name := nm, declType := t }

/-- The table constraints after the columns, separated by optional commas. -/
def tableConstraintsP : Nat → Option String → List TableConstraint → ParseM (List TableConstraint)
  | 0, _, ts => pure ts
  | k + 1, name, ts => do
    if (← kw "CONSTRAINT") then
      let nm ← nameP
      tableConstraintsP k (some nm) ts
    else if (← kw "PRIMARY") then
      expectKw "KEY"
      let cols ← indexedNamesP k
      let conflict ← onConflictP
      next k (ts ++ [.primaryKey cols conflict])
    else if (← kw "UNIQUE") then
      let cols ← indexedNamesP k
      let conflict ← onConflictP
      next k (ts ++ [.unique cols conflict])
    else if (← kw "CHECK") then
      let ch ← checkBodyP k name
      let _ ← onConflictP
      next k (ts ++ [.check ch])
    else if (← kw "FOREIGN") then
      expectKw "KEY"
      let cols ← indexedNamesP k
      expectKw "REFERENCES"
      let r ← referenceP k
      next k (ts ++ [.foreignKey cols r])
    else fail
where
  /-- After a constraint: the closing parenthesis, or more constraints. -/
  next (k : Nat) (ts : List TableConstraint) : ParseM (List TableConstraint) := do
    if (← atSym ")") then return ts
    let _ ← sym ","
    tableConstraintsP k none ts

/-- The columns of a table, then its constraints, up to the closing parenthesis. -/
def tableBody : Nat → List ColumnDef → ParseM (List ColumnDef × List TableConstraint)
  | 0, cs => pure (cs, [])
  | k + 1, cs => do
    let c ← columnP k
    let cs := cs ++ [c]
    if (← sym ",") then
      if (← atKw "CONSTRAINT") || (← atKw "PRIMARY") || (← atKw "UNIQUE") || (← atKw "CHECK") ||
          (← atKw "FOREIGN") then
        let ts ← tableConstraintsP k none []
        expectSym ")"
        return (cs, ts)
      tableBody k cs
    else
      expectSym ")"
      return (cs, [])

/-- The assignments of an update: a column or a parenthesised list of columns, and a value. -/
def setsP : Nat → ParseM (List (List String × Expr))
  | 0 => fail
  | k + 1 => do
    let cols ← if (← sym "(") then do
        let ns ← namesP k
        expectSym ")"
        pure ns
      else pure [← nameP]
    expectSym "="
    let e ← exprP k
    if (← sym ",") then return (cols, e) :: (← setsP k) else return [(cols, e)]

/-- Whether the words IF NOT EXISTS come next. -/
def ifNotExistsP : ParseM Bool := do
  if (← kw "IF") then
    expectKw "NOT"
    expectKw "EXISTS"
    return true
  return false

/-- Whether the words IF EXISTS come next. -/
def ifExistsP : ParseM Bool := do
  if (← kw "IF") then
    expectKw "EXISTS"
    return true
  return false

/-- The upsert clauses of an insertion. -/
def upsertsP : Nat → ParseM (List Upsert)
  | 0 => pure []
  | k + 1 => do
    if (← atKw "ON") then
      advance
      expectKw "CONFLICT"
      let target ← if (← atSym "(") then some <$> indexedNamesP k else pure none
      let targetFilter ← if target.isSome && (← kw "WHERE") then some <$> exprP k else pure none
      expectKw "DO"
      let action ← if (← kw "NOTHING") then pure UpsertAction.nothing
        else do
          expectKw "UPDATE"
          expectKw "SET"
          let sets ← setsP k
          let filter ← if (← kw "WHERE") then some <$> exprP k else pure none
          pure (UpsertAction.update sets filter)
      return { target, targetFilter, action } :: (← upsertsP k)
    else return []

/-- An optional RETURNING clause. -/
def returningP (fuel : Nat) : ParseM (List ResultColumn) := do
  if (← kw "RETURNING") then resultsP fuel else return []

/-- A table named by a change, with an optional alias. -/
def changedTableP (inTrigger : Bool) : ParseM (String × Option String) := do
  let n ← nameP
  if (← atSym ".") then
    if inTrigger then
      throw (.other "qualified table names are not allowed on INSERT, UPDATE, and DELETE statements within triggers")
    advance
    let t ← nameP
    return (t, ← (if (← kw "AS") then some <$> nameP else pure none))
  return (n, ← (if (← kw "AS") then some <$> nameP else pure none))

/-- The value a pragma is set to: a signed number, a name, a string or a keyword. -/
def pragmaValueP : ParseM String := do
  let sign ← if (← sym "-") then pure "-" else do let _ ← sym "+"; pure ""
  match (← peek) with
  | some t =>
    match t.kind with
    | .num raw => advance; return sign ++ raw
    | .word w => if sign ≠ "" then fail else do advance; return w
    | .str s => if sign ≠ "" then fail else do advance; return s
    | .quoted q => if sign ≠ "" then fail else do advance; return q
    | _ => fail
  | none => fail

/-- The terms of an index: expressions with an optional direction. -/
def indexTermsP : Nat → ParseM (List Expr)
  | 0 => fail
  | k + 1 => do
    let e ← exprP k
    let _ ← kw "ASC"
    let _ ← kw "DESC"
    if (← sym ",") then return e :: (← indexTermsP k) else return [e]

/-- The options after a table's columns: `WITHOUT ROWID` and `STRICT`, separated by commas. -/
def tableOptionsP : Nat → ParseM Unit
  | 0 => pure ()
  | k + 1 => do
    if (← kw "WITHOUT") then
      let w ← nameP
      if asciiUpper w ≠ "ROWID" then throw (.other ("unknown table option: " ++ w))
      if (← sym ",") then tableOptionsP k
    else if (← kw "STRICT") then
      if (← sym ",") then tableOptionsP k
    else pure ()

/-- An optional name after TRANSACTION. -/
def optionalName : ParseM Unit := do
  match (← peek) with
  | some t => if isAliasToken t then let _ ← nameP else pure ()
  | none => pure ()
mutual
/-- One statement; `inTrigger` for the statements of a trigger program. -/
def stmtP : Nat → Bool → ParseM Stmt
  | 0, _ => fail
  | k + 1, inTrigger => do
    let first ← peek
    if inTrigger && !(["INSERT", "REPLACE", "UPDATE", "DELETE", "SELECT", "VALUES"].any fun w =>
        (first.map (isWord · w)).getD false) then fail
    if (← kw "EXPLAIN") then
      if (← kw "QUERY") then expectKw "PLAN"
      return .explain (← stmtP k inTrigger)
    else if (← kw "CREATE") then
      let temp ← kw "TEMP"
      let temp ← if temp then pure true else kw "TEMPORARY"
      let unique ← kw "UNIQUE"
      if !unique && (← kw "TABLE") then
        let ine ← ifNotExistsP
        let nm ← qualifiedName
        if (← kw "AS") then return .createTableAs nm ine (← selectP k)
        expectSym "("
        let (cs, ts) ← tableBody k []
        tableOptionsP k
        return .createTable nm ine cs ts
      else if !temp && (← kw "INDEX") then
        let ine ← ifNotExistsP
        let nm ← qualifiedName
        expectKw "ON"
        let t ← nameP
        expectSym "("
        let cols ← indexTermsP k
        expectSym ")"
        let filter ← if (← kw "WHERE") then some <$> exprP k else pure none
        return .createIndex nm ine unique t cols filter
      else if !unique && (← kw "TRIGGER") then
        let ine ← ifNotExistsP
        let nm ← qualifiedName
        let timing ← if (← kw "AFTER") then pure Timing.after
          else if (← kw "BEFORE") then pure .before
          else if (← kw "INSTEAD") then do expectKw "OF"; pure .insteadOf
          else pure .before
        let event ← if (← kw "INSERT") then pure Event.insert
          else if (← kw "DELETE") then pure Event.delete
          else if (← kw "UPDATE") then do
            if (← kw "OF") then pure (Event.update (← namesP k)) else pure (Event.update [])
          else fail
        expectKw "ON"
        let t ← qualifiedName
        if (← kw "FOR") then
          expectKw "EACH"
          expectKw "ROW"
        let condition ← if (← kw "WHEN") then some <$> exprP k else pure none
        expectKw "BEGIN"
        let body ← bodyP k
        return .createTrigger nm ine timing event t condition body
      else if !unique && (← kw "VIEW") then
        let ine ← ifNotExistsP
        let nm ← qualifiedName
        let cols ← if (← sym "(") then do
            let ns ← namesP k
            expectSym ")"
            pure ns
          else pure []
        expectKw "AS"
        return .createView nm ine cols (← selectP k)
      else fail
    else if (← kw "DROP") then
      let kind ← if (← kw "TABLE") then pure ObjectKind.table
        else if (← kw "INDEX") then pure .index
        else if (← kw "TRIGGER") then pure .trigger
        else if (← kw "VIEW") then pure .view
        else fail
      let ie ← ifExistsP
      return .drop kind (← qualifiedName) ie
    else if (← kw "ALTER") then
      expectKw "TABLE"
      let t ← qualifiedName
      if (← kw "RENAME") then
        if (← kw "TO") then return .renameTable t (← nameP)
        let _ ← kw "COLUMN"
        let old ← nameP
        expectKw "TO"
        return .renameColumn t old (← nameP)
      else if (← kw "ADD") then
        let _ ← kw "COLUMN"
        return .addColumn t (← columnP k)
      else if (← kw "DROP") then
        let _ ← kw "COLUMN"
        return .dropColumn t (← nameP)
      else fail
    else if (← atKw "INSERT") || (← atKw "REPLACE") then
      let conflict ← if (← kw "REPLACE") then pure (some Conflict.replace)
        else do
          advance
          if (← kw "OR") then some <$> conflictP else pure none
      expectKw "INTO"
      let (t, label) ← changedTableP inTrigger
      let cols ← if (← sym "(") then do
          let ns ← namesP k
          expectSym ")"
          pure (some ns)
        else pure none
      if (← kw "DEFAULT") then
        expectKw "VALUES"
        return .insert conflict t label cols .defaults [] (← returningP k)
      let q ← selectP k
      let rows := match q with
        | .mk [] (.values rows) [] [] none none => InsertSource.values rows
        | q => .query q
      let ups ← upsertsP k
      return .insert conflict t label cols rows ups (← returningP k)
    else if (← kw "UPDATE") then
      let conflict ← if (← kw "OR") then some <$> conflictP else pure none
      let (t, label) ← changedTableP inTrigger
      expectKw "SET"
      let sets ← setsP k
      let filter ← if (← kw "WHERE") then some <$> exprP k else pure none
      return .update conflict t label sets filter (← returningP k)
    else if (← kw "DELETE") then
      expectKw "FROM"
      let (t, label) ← changedTableP inTrigger
      let filter ← if (← kw "WHERE") then some <$> exprP k else pure none
      return .delete t label filter (← returningP k)
    else if (← atKw "SELECT") || (← atKw "VALUES") then return .select (← selectP k)
    else if (← kw "WITH") then
      let _ ← kw "RECURSIVE"
      let named ← commonTablesP k
      if (← atKw "SELECT") || (← atKw "VALUES") then
        let .mk inner first rest orderBy limit offset ← selectP k
        return .select (.mk (named ++ inner) first rest orderBy limit offset)
      else if (← atKw "INSERT") || (← atKw "REPLACE") || (← atKw "UPDATE") || (← atKw "DELETE") then
        return .withTables named (← stmtP k inTrigger)
      else fail
    else if (← kw "PRAGMA") then
      let n ← nameP
      let n ← if (← sym ".") then nameP else pure n
      if (← sym "=") then return .pragma n (.assign (← pragmaValueP))
      else if (← sym "(") then
        let v ← pragmaValueP
        expectSym ")"
        return .pragma n (.call v)
      else return .pragma n .none
    else if (← kw "BEGIN") then
      if !(← kw "DEFERRED") then
        if !(← kw "IMMEDIATE") then let _ ← kw "EXCLUSIVE"
      if (← kw "TRANSACTION") then optionalName
      return .begin
    else if (← kw "COMMIT") || (← kw "END") then
      if (← kw "TRANSACTION") then optionalName
      return .commit
    else if (← kw "ROLLBACK") then
      let _ ← kw "TRANSACTION"
      if (← kw "TO") then
        let _ ← kw "SAVEPOINT"
        return .rollbackTo (← nameP)
      return .rollback
    else if (← kw "SAVEPOINT") then return .savepoint (← nameP)
    else if (← kw "RELEASE") then
      let _ ← kw "SAVEPOINT"
      return .release (← nameP)
    else if (← kw "VACUUM") then
      match (← peek) with
      | some t => match t.kind with
        | .word w => if isWord t "INTO" || isReserved w then pure () else advance
        | .quoted _ | .str _ => advance
        | _ => pure ()
      | none => pure ()
      return .vacuum
    else if (← kw "ANALYZE") then
      if (← peek).any isAliasToken then let _ ← qualifiedName
      return .analyze
    else if (← kw "REINDEX") then
      if (← peek).any isAliasToken then let _ ← qualifiedName
      return .reindex
    else fail

/-- The statements of a trigger program, each ended by a semicolon, up to END. -/
def bodyP : Nat → ParseM (List Stmt)
  | 0 => fail
  | k + 1 => do
    let s ← stmtP k true
    expectSym ";"
    if (← kw "END") then return [s]
    return s :: (← bodyP k)

end

/-- The next statement of some tokens and the tokens after it; none when only separators are
left. -/
def nextStatement (tokens : List Token) : Except ParseError (Option (Stmt × List Token)) :=
  let tokens := tokens.dropWhile (·.kind = .sym ";")
  if tokens.isEmpty then .ok none
  else
    let fuel := 16 * (tokens.length + 4)
    match (stmtP fuel false).run tokens with
    | .error e => .error e
    | .ok (s, rest) =>
      match rest with
      | [] => .ok (some (s, []))
      | t :: more =>
        if t.kind = .sym ";" then .ok (some (s, more))
        else if t.kind = .bad then .error (.unrecognized t.text)
        else .error (.near t.text)

end PassPlan.Sql
