import PassPlan.Sql.Query
/-!
Checking a statement before it runs, as a database prepares it. Within a query, every table,
view and `*` it names must exist before any name is looked at; then each part of the query is
checked, the last part of a compound query first: its subqueries, its result columns, its
group condition, its filter, its join conditions, its ordering and its grouping. A name must
reach exactly one column; a function must exist and take the number of arguments it is given;
an aggregate may stand only where the query aggregates. A failed function call does not stop
the check of the expression it stands in, and a later failure replaces it; a name that reaches
nothing stops the check at once. Inside a trigger program or a view, tables are named with the
schema they live in.
-/
namespace PassPlan.Sql

/-- Checking: the failure of a function call so far, which a later one replaces, or a failure
that ends the check. -/
abbrev CheckM := StateT (Option String) (Except String)

/-- Records a failure that lets the check of the expression go on. -/
def noteFailure (m : String) : CheckM Unit := set (some m)

/-- Ends the check with the failure recorded so far, if there is one. -/
def settle : CheckM Unit := do
  match ← get with
  | some m => throw m
  | none => pure ()

/-- Ends the check with a failure. -/
def refuse {α : Type} (m : String) : CheckM α := throw m

/-- A failure of a computation that knows no recorded failures. -/
def liftCheck {α : Type} : Except String α → CheckM α
  | .ok a => pure a
  | .error m => throw m

/-- What an expression may hold where it stands: aggregates, and `RAISE` inside a trigger
program. -/
structure Allowance where
  aggregate : Bool := false
  raise : Bool := false

/-- The name of a missing table as a failure names it: with its schema inside a trigger program
or a view. -/
def missingTable (qualified : Bool) (name : String) : String :=
  "no such table: " ++ (if qualified then "main." else "") ++ name

/-- The label a FROM item answers to. -/
def SourceItem.label? : SourceItem → Option String
  | .table name label => some (label.getD name)
  | .query _ label => label

mutual

/-- Checks that the tables, views and `*` of a query exist, its subqueries included. -/
def expandSelect : Nat → Database → Bool → Select → Except String Unit
  | 0, _, _, _ => .error "query nested too deeply"
  | n + 1, db, qualified, .mk named first rest orderBy limit offset => do
    let db := db.withNamed named
    for core in (first :: rest.map (·.2)).reverse do
      expandCore n db qualified core
    for t in orderBy do
      let .mk e _ _ := t
      expandExpr n db qualified e
    for e in [limit, offset].reduceOption do
      expandExpr n db qualified e

/-- Checks that the tables, views and `*` of a core exist. -/
def expandCore : Nat → Database → Bool → Core → Except String Unit
  | 0, _, _, _ => .error "query nested too deeply"
  | n + 1, db, qualified, .values rows =>
    rows.forM fun r => r.forM (expandExpr n db qualified)
  | n + 1, db, qualified, .query _ cols source filter groupBy having => do
    for src in source do
      let .mk _ _ item _ _ := src
      match item with
      | .table name _ =>
        match db.named? name with
        | some w => expandNamed n db qualified w
        | none =>
          if (db.source? name).isNone then
            match db.view? name with
            | some v => expandSelect n db true v.query
            | none => .error (missingTable qualified name)
      | .query q _ => expandSelect n db qualified q
    for c in cols do
      match c with
      | .star => if source.isEmpty then .error "no tables specified"
      | .tableStar t =>
        let known := source.any fun
          | .mk _ _ item _ _ => (item.label?.map (sameName · t)).getD false
        if !known then .error ("no such table: " ++ t)
      | .expr e _ _ => expandExpr n db qualified e
    for e in ([filter, having].reduceOption ++ groupBy) do
      expandExpr n db qualified e

/-- Checks a query a WITH clause names where a FROM clause names it. Naming it again while it
is being expanded is circular, except in the recursive cores of a query that recurses, each of
which names it once; its column names, if it gives them, must match its columns. -/
def expandNamed : Nat → Database → Bool → NamedQuery → Except String Unit
  | 0, _, _, _ => .error "query nested too deeply"
  | n + 1, db, qualified, w =>
    if w.expanding then .error ("circular reference: " ++ w.name)
    else if w.rows.isSome then pure ()
    else do
      let .mk named first _ _ _ _ := w.query
      let marked := db.bindNamed { w with expanding := true }
      match recursiveParts w.name w.query with
      | some (first, setupRest, _, recs) =>
        for c in recs do
          if c.directRefs w.name > 1 then
            .error ("multiple references to recursive table: " ++ w.name)
        expandSelect n marked qualified (.mk named first setupRest [] none none)
        columnCount n marked w named first
        let working := (db.bindNamed { w with rows := some [] }).withNamed named
        for c in recs do
          expandCore n working qualified c
      | none =>
        expandSelect n marked qualified w.query
        columnCount n marked w named first
where
  /-- Checks that the names given to the columns are as many as the columns. -/
  columnCount (n : Nat) (db : Database) (w : NamedQuery) (named : List CommonTable) (first : Core) :
      Except String Unit :=
    if w.columns.isEmpty then pure ()
    else
      match selectColumns n db [] (.mk named first [] [] none none) with
      | .ok cols =>
        if cols.length ≠ w.columns.length then
          .error ("table " ++ w.name ++ " has " ++ toString cols.length ++ " values for " ++
            toString w.columns.length ++ " columns")
        else pure ()
      | .error _ => pure ()

/-- Checks the tables of the subqueries of an expression. -/
def expandExpr : Nat → Database → Bool → Expr → Except String Unit
  | 0, _, _, _ => .error "expression nested too deeply"
  | n + 1, db, qualified, e =>
    let go := expandExpr n db qualified
    match e with
    | .unary _ a | .isNull a _ | .cast a _ | .collate a _ => go a
    | .binary _ a b => do go a; go b
    | .like _ a p esc _ => do go a; go p; esc.forM go
    | .between a lo hi _ => do go a; go lo; go hi
    | .inList a items _ => do go a; items.forM go
    | .inSelect a q _ => do go a; expandSelect n db qualified q
    | .exists q | .scalar q => expandSelect n db qualified q
    | .call _ args _ _ => args.forM go
    | .case o arms other => do
      o.forM go
      arms.forM fun (w, t) => do go w; go t
      other.forM go
    | .row items => items.forM go
    | _ => pure ()

end

mutual

/-- Checks the names and calls of a query whose tables exist; its columns. -/
def checkSelect : Nat → Database → Env → Allowance → Select → CheckM (List ColumnInfo)
  | 0, _, _, _, _ => refuse "query nested too deeply"
  | n + 1, db, env, allow, q@(.mk named first rest orderBy limit offset) => do
    let db := db.withNamed named
    let cores := first :: rest.map (·.2)
    let compound := !rest.isEmpty
    let widths ← cores.reverse.mapM fun c => checkCore n db env allow c (if compound then [] else orderBy)
    let widths := widths.reverse
    -- compound parts must agree on the number of columns
    for ((op, core), w) in rest.zip (widths.drop 1) do
      if w ≠ widths.headD 0 then
        match core with
        | .values _ => refuse "all VALUES must have the same number of terms"
        | _ => refuse ("SELECTs to the left and right of " ++ op.words ++
            " do not have the same number of result columns")
    let cols ← liftCheck (selectColumns n db env q)
    if compound then
      for (t, i) in orderBy.zipIdx do
        let .mk e _ _ := t
        match e with
        | .lit (.int k) =>
          if k < 1 || k > cols.length then
            refuse (ordinal (i + 1) ++ " ORDER BY term out of range - should be between 1 and " ++
              toString cols.length)
        | .column none nm _ =>
          if !cols.any (sameName ·.name nm) then
            refuse (ordinal (i + 1) ++ " ORDER BY term does not match any column in the result set")
        | _ => refuse (ordinal (i + 1) ++ " ORDER BY term does not match any column in the result set")
    for e in [limit, offset].reduceOption do
      checkExpr n db env { allow with aggregate := false } e
      settle
    pure cols

/-- Checks one core of a query; the number of its columns. -/
def checkCore : Nat → Database → Env → Allowance → Core → List OrderTerm → CheckM Nat
  | 0, _, _, _, _, _ => refuse "query nested too deeply"
  | n + 1, db, env, allow, .values rows, order => do
    for r in rows do
      for e in r do
        checkExpr n db env { allow with aggregate := false } e
        settle
    let width := (rows.headD []).length
    if rows.any (·.length ≠ width) then refuse "all VALUES must have the same number of terms"
    for (t, i) in order.zipIdx do
      let .mk e _ _ := t
      match e with
      | .lit (.int k) =>
        if k < 1 || k > width then
          refuse (ordinal (i + 1) ++ " ORDER BY term out of range - should be between 1 and " ++ toString width)
      | e =>
        checkExpr n db env allow e
        settle
    pure width
  | n + 1, db, env, allow, core@(.query _ cols source filter groupBy having), order => do
    for src in source do
      let .mk _ _ item _ _ := src
      match item with
      | .query q _ => let _ ← checkSelect n db env { allow with aggregate := false } q
      | .table name _ =>
        match db.named? name with
        | some w =>
          if w.rows.isNone then
            let working := db.bindNamed { w with rows := some [] }
            let _ ← checkSelect n working env { allow with aggregate := false } w.query
        | none => pure ()
    let infos ← liftCheck (sourceInfos n db env source)
    for (src, info) in source.zip infos do
      let .mk _ _ _ _ usingColumns := src
      let earlier := (infos.takeWhile (fun i => !sameName i.label info.label)).flatMap (·.columns)
      for c in usingColumns do
        if !(info.columns.any (sameName ·.name c)) || !(earlier.any (sameName ·.name c)) then
          refuse ("cannot join using column " ++ c ++ " - column not present in both tables")
    let level : Level := { frames := infos.map SourceInfo.empty }
    let scope := level :: env
    for c in cols do
      match c with
      | .expr e _ _ =>
        checkExpr n db scope { allow with aggregate := true } e
        settle
      | _ => pure ()
    let width := (← liftCheck (coreColumns n db env core)).length
    let calls := cols.flatMap fun
      | .expr e _ _ => aggregateCalls 64 e
      | _ => []
    let grouped := !groupBy.isEmpty || !calls.isEmpty
    let named : Env := { level with aliases := coreAliases core } :: env
    match having with
    | some h =>
      if !grouped then refuse "HAVING clause on a non-aggregate query"
      checkExpr n db named { allow with aggregate := true } h
      settle
    | none => pure ()
    match filter with
    | some f =>
      checkExpr n db named { allow with aggregate := grouped } f
      settle
    | none => pure ()
    for src in source do
      let .mk _ _ _ on _ := src
      match on with
      | some e =>
        checkExpr n db named { allow with aggregate := false } e
        settle
      | none => pure ()
    let term (kind : String) (i : Nat) (e : Expr) : CheckM Unit := do
      match e with
      | .lit (.int k) =>
        if k < 1 || k > width then
          refuse (ordinal (i + 1) ++ " " ++ kind ++ " BY term out of range - should be between 1 and " ++
            toString width)
      | .column none nm _ =>
        if (coreAliases core).any (sameName ·.1 nm) then pure ()
        else
          checkExpr n db named { allow with aggregate := true } e
          settle
      | e =>
        checkExpr n db named { allow with aggregate := true } e
        settle
    for (t, i) in order.zipIdx do
      let .mk e _ _ := t
      term "ORDER" i e
    for (g, i) in groupBy.zipIdx do
      term "GROUP" i g
      if !(aggregateCalls 64 g).isEmpty then
        refuse "aggregate functions are not allowed in the GROUP BY clause"
    -- an aggregate the filter may name still has no group to run over
    match filter.map (aggregateCalls 64) with
    | some ((name, _, _) :: _) => refuse ("misuse of aggregate: " ++ name ++ "()")
    | _ => pure ()
    pure width

/-- Checks the names and calls of an expression. -/
def checkExpr : Nat → Database → Env → Allowance → Expr → CheckM Unit
  | 0, _, _, _, _ => refuse "expression nested too deeply"
  | n + 1, db, env, allow, e =>
    let go := checkExpr n db env allow
    let sub (q : Select) : CheckM (List ColumnInfo) := do
      liftCheck (expandSelect n db false q)
      checkSelect n db env allow q
    match e with
    | .lit _ | .param _ => pure ()
    | .column t nm q =>
      match env.reach t nm q with
      | .ok _ => pure ()
      | .error m => refuse m
    | .unary _ a | .isNull a _ | .cast a _ | .collate a _ => go a
    | .binary _ a b => do go a; go b
    | .like _ a p esc _ => do go p; go a; esc.forM go
    | .between a lo hi _ => do go a; go lo; go hi
    | .inList a items _ => do go a; items.forM go
    | .inSelect a q _ => do
      go a
      let cols ← sub q
      if cols.length ≠ 1 then
        refuse ("sub-select returns " ++ toString cols.length ++ " columns - expected 1")
    | .exists q => do let _ ← sub q
    | .scalar q => do
      let cols ← sub q
      if cols.length ≠ 1 then
        refuse ("sub-select returns " ++ toString cols.length ++ " columns - expected 1")
    | .call name args _ _ => do
      let inner ← match resolveCall name args.length with
        | .error m => do noteFailure m; pure allow
        | .ok .aggregate => do
          if !allow.aggregate then noteFailure ("misuse of aggregate function " ++ name ++ "()")
          pure { allow with aggregate := false }
        | .ok .window => do
          noteFailure ("misuse of window function " ++ name ++ "()")
          pure allow
        | .ok .scalar => pure allow
      args.forM (checkExpr n db env inner)
    | .case o arms other => do
      o.forM go
      arms.forM fun (w, t) => do go w; go t
      other.forM go
    | .raise _ _ =>
      if allow.raise then pure () else noteFailure "RAISE() may only be used within a trigger-program"
    | .row items => items.forM go

end

/-- Checks a query statement: its tables, then its names. -/
def checkQuery (db : Database) (env : Env) (allow : Allowance) (qualified : Bool) (q : Select) :
    Except String (List ColumnInfo) := do
  expandSelect 256 db qualified q
  let (cols, _) ← (checkSelect 256 db env allow q).run none
  pure cols

/-- Checks one expression in a scope. -/
def checkOne (db : Database) (env : Env) (allow : Allowance) (e : Expr) : Except String Unit := do
  let ((), failure) ← (checkExpr 256 db env allow e).run none
  match failure with
  | some m => .error m
  | none => pure ()

end PassPlan.Sql
