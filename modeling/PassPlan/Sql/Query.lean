import PassPlan.Sql.Operator
/-!
Evaluating expressions and running queries. A query joins its sources row by row, keeps the
rows its filter holds for, groups them when it aggregates (by the grouping terms in their
order, or all rows in one group), keeps the groups its group condition holds for, computes its
result columns, drops repeated rows for `DISTINCT`, sorts and limits. Compound queries combine
the rows of their parts; `UNION`, `INTERSECT` and `EXCEPT` list a set of rows in order. A
column of a query that is not an aggregate takes its value from the last row of the group, or
from the row that gave the minimum or maximum when that is the query's only aggregate.
-/
namespace PassPlan.Sql

/-- What stops a statement: a failure that undoes it, a failure that keeps what it changed
before it (with the database as it then stood), a failure that also ends the open transaction,
or a trigger's request to skip the rest of the current row. -/
inductive Stop where
  | abort (e : SqlError)
  | fail (e : SqlError) (db : Database)
  | rollback (e : SqlError)
  | ignore (db : Database)
deriving Inhabited

/-- Evaluation and execution. -/
abbrev ExecM := Except Stop

/-- Fails with a logic error. -/
def logicError {α : Type} (m : String) : ExecM α := throw (.abort (.logic m))

/-- A failed function: a text or blob too long, or a logic error. -/
def functionError {α : Type} (m : String) : ExecM α :=
  if m = "string or blob too big" then throw (.abort .tooBig) else logicError m

/-- What evaluation reads: the database and the bound parameters. -/
structure Ctx where
  db : Database
  params : List Value := []

/-- The collation of a name, binary when it is unknown. -/
def collationNamed (n : String) : Collation := (Collation.ofName? n).getD .binary

/-- The aggregate calls in an expression outside its subqueries: name, arguments and whether
the arguments are distinct. -/
def aggregateCalls : Nat → Expr → List (String × List Expr × Bool)
  | 0, _ => []
  | n + 1, e =>
    let go := aggregateCalls n
    match e with
    | .call name args distinct _ =>
      if isAggregateCall name args.length then [(name, args, distinct)]
      else args.flatMap go
    | .unary _ a | .isNull a _ | .cast a _ | .collate a _ => go a
    | .binary _ a b => go a ++ go b
    | .like _ a p esc _ => go p ++ go a ++ (esc.map go).getD []
    | .between a lo hi _ => go a ++ go lo ++ go hi
    | .inList a items _ => go a ++ items.flatMap go
    | .inSelect a _ _ => go a
    | .case o arms other =>
      (o.map go).getD [] ++ arms.flatMap (fun (w, t) => go w ++ go t) ++ (other.map go).getD []
    | .row items => items.flatMap go
    | _ => []

/-- The collation an expression carries, and whether it was asked for with `COLLATE`. -/
def exprCollation : Nat → Env → Expr → Option (Collation × Bool)
  | 0, _, _ => none
  | n + 1, env, e =>
    match e with
    | .collate _ name => some (collationNamed name, true)
    | .column t nm q =>
      match env.reach t nm q with
      | .ok (.cell _ _ _ info) => some (info.collation, false)
      | .ok (.aliased d a) => exprCollation n (env.drop d) a
      | _ => none
    | .cast a _ | .unary .plus a => exprCollation n env a
    | .binary _ a b =>
      match exprCollation n env a with
      | some (c, true) => some (c, true)
      | _ =>
        match exprCollation n env b with
        | some (c, true) => some (c, true)
        | _ => none
    | _ => none

/-- The collation a comparison of two expressions uses: one asked for on the left, then on the
right, then the left column's, then the right column's. -/
def pairCollation (env : Env) (a b : Expr) : Collation :=
  match exprCollation 64 env a, exprCollation 64 env b with
  | some (c, true), _ => c
  | _, some (c, true) => c
  | some (c, _), _ => c
  | _, some (c, _) => c
  | _, _ => .binary

/-- The name a result column shows: the name given to it, the name of the column it is, or the
text it was written as. -/
def resultName (env : Env) (e : Expr) (label : Option String) (span : String) : String :=
  match label with
  | some l => l
  | none =>
    match e with
    | .column t nm q =>
      match env.reach t nm q with
      | .ok (.cell _ _ _ info) => info.name
      | .ok (.rowid d i) =>
        let f := env.frame d i
        match f.info.rowidColumn with
        | some j => (f.info.columns.getD j default).name
        | none => "rowid"
      | _ => span
    | _ => span

/-- Names made distinct by a suffix `:k` on a repeated name, as a subquery's columns are. -/
def distinctNames (cols : List ColumnInfo) : List ColumnInfo :=
  (cols.foldl (fun (acc : List ColumnInfo) c =>
    let taken (nm : String) := acc.any (sameName ·.name nm)
    let base := c.name
    let rec pick : Nat → Nat → String
      | 0, k => base ++ ":" ++ toString k
      | fuel + 1, k => if taken (base ++ ":" ++ toString k) then pick fuel (k + 1) else base ++ ":" ++ toString k
    let nm := if taken base then pick (acc.length + 1) 1 else base
    { c with name := nm } :: acc) []).reverse

/-- The columns of the frames a `*` stands for: every column, less those a join took from an
earlier source. -/
def starColumns (infos : List SourceInfo) : List ColumnInfo :=
  infos.flatMap fun s => s.columns.filter fun c => !s.merged.any (sameName · c.name)

/-- The view of a name. -/
def Database.view? (db : Database) (n : String) : Option View :=
  match db.find? n with
  | some (.view v) => some v
  | _ => none

/-- How many times a core names a table directly in its FROM clause. -/
def Core.directRefs (name : String) : Core → Nat
  | .query _ _ source _ _ _ =>
    (source.filter fun
      | .mk _ _ (.table t _) _ _ => sameName t name
      | _ => false).length
  | .values _ => 0

/-- How a query a WITH clause names recurses: the first core and the cores after it that set
it up, the operator it recurses with, and the recursive cores, the trailing cores joined by
that one operator, `UNION` or `UNION ALL`, that name the query directly; none when the last
core does not. -/
def recursiveParts (name : String) : Select → Option (Core × List (CompoundOp × Core) × CompoundOp × List Core)
  | .mk _ first rest _ _ _ =>
    match rest.getLast? with
    | some (op, last) =>
      if (op = .union || op = .unionAll) && last.directRefs name > 0 then
        let recs := rest.reverse.takeWhile fun (o, c) => o = op && c.directRefs name > 0
        some (first, rest.take (rest.length - recs.length), op, (recs.map (·.2)).reverse)
      else none
    | none => none

/-- The most rows a recursive query takes from its queue. -/
def recursionLimit : Nat := 100000

/-- Whether an expression's value carries JSON into a function: a call of a function that
makes JSON, or the extraction operator that gives JSON text. -/
def carriesJson : Expr → Bool
  | .call name _ _ _ =>
    ["json", "json_array", "json_object", "json_set", "json_insert", "json_replace",
      "json_remove", "json_patch", "json_quote", "json_group_array",
      "json_group_object"].contains (asciiLower name)
  | .binary .extract _ _ => true
  | _ => false

mutual

/-- The columns a query returns, as names see them. -/
def selectColumns : Nat → Database → Env → Select → Except String (List ColumnInfo)
  | 0, _, _, _ => .error "query nested too deeply"
  | n + 1, db, env, .mk named first _ _ _ _ => coreColumns n (db.withNamed named) env first

/-- The columns a core returns. -/
def coreColumns : Nat → Database → Env → Core → Except String (List ColumnInfo)
  | 0, _, _, _ => .error "query nested too deeply"
  | n + 1, db, env, .values rows =>
    .ok ((rows.headD []).zipIdx.map fun (e, i) =>
      { name := "column" ++ toString (i + 1), affinity := exprAffinity n db env e })
  | n + 1, db, env, .query _ cols source _ _ _ => do
    let infos ← sourceInfos n db env source
    let env := { frames := infos.map SourceInfo.empty : Level } :: env
    let parts ← cols.mapM fun
      | .star => .ok (starColumns infos)
      | .tableStar t =>
        match infos.find? (sameName ·.label t) with
        | some s => .ok s.columns
        | none => .error ("no such table: " ++ t)
      | .expr e label span =>
        .ok [{ name := resultName env e label span, affinity := exprAffinity n db env e
               collation := ((exprCollation 64 env e).map (·.1)).getD .binary }]
    .ok parts.flatten

/-- The sources of a FROM clause as names see them, each with the columns its join takes from
an earlier source. -/
def sourceInfos : Nat → Database → Env → List Source → Except String (List SourceInfo)
  | 0, _, _, _ => .error "query nested too deeply"
  | n + 1, db, env, sources =>
    sources.foldlM (fun (acc : List SourceInfo) src => do
      let .mk _ natural item _ usingColumns := src
      let info ← sourceInfo n db env item
      let before := acc.flatMap (·.columns.map (·.name))
      let merged := if natural then (info.columns.map (·.name)).filter fun c => before.any (sameName · c)
        else usingColumns
      .ok (acc ++ [{ info with merged }])) []

/-- A table, view or subquery as names see it. -/
def sourceInfo : Nat → Database → Env → SourceItem → Except String SourceInfo
  | 0, _, _, _ => .error "query nested too deeply"
  | n + 1, db, env, .table name label =>
    match db.named? name, db.source? name with
    | some w, _ => do
      let cols ← selectColumns n db env w.query
      let cols := if w.columns.isEmpty then cols
        else (w.columns.zip cols).map fun (nm, c) => { c with name := nm }
      .ok { label := label.getD w.name, columns := distinctNames cols }
    | none, some t => .ok (t.info label)
    | none, none =>
      match db.view? name with
      | some v => do
        let cols ← selectColumns n db [] v.query
        let cols := if v.columns.isEmpty then cols
          else (v.columns.zip cols).map fun (nm, c) => { c with name := nm }
        .ok { label := label.getD v.name, columns := distinctNames cols }
      | none => .error ("no such table: " ++ name)
  | n + 1, db, env, .query q label => do
    let cols ← selectColumns n db env q
    .ok { label := label.getD "", columns := distinctNames cols }

/-- The affinity an expression lends a comparison, if any. -/
def exprAffinity : Nat → Database → Env → Expr → Option Affinity
  | 0, _, _, _ => none
  | n + 1, db, env, e =>
    match e with
    | .column t nm q =>
      match env.reach t nm q with
      | .ok (.cell _ _ _ info) => info.affinity
      | .ok (.rowid _ _) => some .integer
      | .ok (.aliased d a) => exprAffinity n db (env.drop d) a
      | _ => none
    | .cast _ ty => some (Affinity.ofCast ty)
    | .collate a _ => exprAffinity n db env a
    | .scalar q =>
      match selectColumns n db env q with
      | .ok (c :: _) => c.affinity
      | _ => none
    | .row (a :: _) => exprAffinity n db env a
    | _ => none

end

/-- The result values of a row for `*`: every column of every frame, less those a join took
from an earlier source. -/
def starValues (frames : List Frame) : List Value :=
  frames.flatMap fun f =>
    (f.info.columns.zip f.values).filterMap fun (c, v) =>
      if f.info.merged.any (sameName · c.name) then none else some v

/-- A number from a limit or an offset, which must be an integer. -/
def limitNumber (v : Value) : ExecM Int :=
  match v.withAffinity .numeric with
  | .int i => pure i
  | _ => throw (.abort .mismatch)

/-- Rows after an offset and up to a limit; a negative limit is none. -/
def applyLimit {α : Type} (limit : Option Int) (offset : Int) (rows : List α) : List α :=
  let rows := rows.drop offset.toNat
  match limit with
  | some l => if l < 0 then rows else rows.take l.toNat
  | none => rows

/-- Whether a value is among others: true on a match, null when none matches but one of them is
null, or when the value is null. -/
def memberOf (aff : Option Affinity) (coll : Collation) (v : Value) (vs : List Value) : Option Bool :=
  if v.isNull then none
  else if vs.any (fun w => compareValues aff coll v w = some .eq) then some true
  else if vs.any (·.isNull) then none
  else some false

/-- The result columns of a core that were given names, which its clauses can use. -/
def coreAliases : Core → List (String × Expr)
  | .query _ cols _ _ _ _ => cols.filterMap fun
    | .expr e (some l) _ => some (l, e)
    | _ => none
  | .values _ => []

/-- The position of the result column given a name, when only expressions come before it. -/
def labelIndex (cols : List ResultColumn) (nm : String) : Option Nat :=
  go cols 0
where
  go : List ResultColumn → Nat → Option Nat
    | [], _ => none
    | .expr _ (some l) _ :: rest, i => if sameName l nm then some i else go rest (i + 1)
    | .expr _ none _ :: rest, i => go rest (i + 1)
    | _ :: _, _ => none

mutual

/-- The value of an expression. -/
def eval : Nat → Ctx → Env → Expr → ExecM Value
  | 0, _, _, _ => logicError "expression nested too deeply"
  | n + 1, ctx, env, e =>
    match e with
    | .lit v => pure v
    | .param i => pure (ctx.params.getD i .null)
    | .column t nm q =>
      match env.reach t nm q with
      | .ok (.cell d i j _) => pure (((env.frame d i).values).getD j .null)
      | .ok (.rowid d i) => pure (env.frame d i).rowid
      | .ok (.aliased d a) => eval n ctx (env.drop d) a
      | .ok (.constant v) => pure v
      | .error m => logicError m
    | .unary op a => do
      let v ← eval n ctx env a
      match op with
      | .neg => pure (arith .sub (.int 0) v)
      | .plus => pure v
      | .not => pure (ofTruth (v.truth.map (!·)))
      | .bitNot => pure (complement v)
    | .binary .and a b => do
      let x := (← eval n ctx env a).truth
      if x = some false then return .int 0
      let y := (← eval n ctx env b).truth
      pure (match x, y with
        | _, some false => .int 0
        | some true, some true => .int 1
        | _, _ => .null)
    | .binary .or a b => do
      let x := (← eval n ctx env a).truth
      if x = some true then return .int 1
      let y := (← eval n ctx env b).truth
      pure (match x, y with
        | _, some true => .int 1
        | some false, some false => .int 0
        | _, _ => .null)
    | .binary op a b => do
      let x ← eval n ctx env a
      let y ← eval n ctx env b
      if op.compares then
        let aff := comparisonAffinity (exprAffinity n ctx.db env a) (exprAffinity n ctx.db env b)
        let coll := pairCollation env a b
        if op = .is || op = .isNot then
          let same := match x.isNull, y.isNull with
            | true, true => true
            | false, false => compareValues aff coll x y = some .eq
            | _, _ => false
          pure (ofTruth (some (if op = .is then same else !same)))
        else pure (ofTruth ((compareValues aff coll x y).map op.holds))
      else
        match op with
        | .add | .sub | .mul | .div | .rem => pure (arith op x y)
        | .bitAnd | .bitOr | .shl | .shr => pure (bitwise op x y)
        | .concat => pure (concatValues x y)
        | .extract | .extractText =>
          match jsonArrow (op = .extract) x y with
          | .ok v => pure v
          | .error m => functionError m
        | _ => pure .null
    | .isNull a negated => do
      let v ← eval n ctx env a
      pure (ofTruth (some (v.isNull != negated)))
    | .like glob a p esc negated => do
      let pv ← eval n ctx env p
      let av ← eval n ctx env a
      let ev ← match esc with
        | some x => some <$> eval n ctx env x
        | none => pure none
      match patternValue glob pv av ev with
      | .ok v => pure (if negated then ofTruth (v.truth.map (!·)) else v)
      | .error m => logicError m
    | .between a lo hi negated => do
      let v ← eval n ctx env a
      let l ← eval n ctx env lo
      let h ← eval n ctx env hi
      let affL := comparisonAffinity (exprAffinity n ctx.db env a) (exprAffinity n ctx.db env lo)
      let affH := comparisonAffinity (exprAffinity n ctx.db env a) (exprAffinity n ctx.db env hi)
      let ge := (compareValues affL (pairCollation env a lo) v l).map BinOp.ge.holds
      let le := (compareValues affH (pairCollation env a hi) v h).map BinOp.le.holds
      let both := match ge, le with
        | some false, _ | _, some false => some false
        | some true, some true => some true
        | _, _ => none
      pure (ofTruth (if negated then both.map (!·) else both))
    | .inList a items negated => do
      if items.isEmpty then return .int (if negated then 1 else 0)
      let v ← eval n ctx env a
      let vs ← items.mapM (eval n ctx env)
      let aff := exprAffinity n ctx.db env a
      let coll := ((exprCollation 64 env a).map (·.1)).getD .binary
      pure (ofTruth ((memberOf aff coll v vs).map (· != negated)))
    | .inSelect a q negated => do
      let v ← eval n ctx env a
      let rows ← runSelect n ctx env q
      let colAff := match selectColumns n ctx.db env q with
        | .ok (c :: _) => c.affinity
        | _ => none
      let aff := comparisonAffinity (exprAffinity n ctx.db env a) colAff
      let coll := ((exprCollation 64 env a).map (·.1)).getD .binary
      if rows.isEmpty then return .int (if negated then 1 else 0)
      pure (ofTruth ((memberOf aff coll v (rows.map (·.headD .null))).map (· != negated)))
    | .exists q => do
      let rows ← runSelect n ctx env q
      pure (.int (if rows.isEmpty then 0 else 1))
    | .scalar q => do
      let rows ← runSelect n ctx env q
      pure ((rows.head?.bind (·.head?)).getD .null)
    | .call name args distinct _ =>
      if isAggregateCall name args.length then aggregate n ctx env name args distinct
      else
        match asciiLower name with
        | "coalesce" | "ifnull" => firstNonNull n ctx env args
        | "iif" | "if" => choose n ctx env args
        | "changes" => pure (.int ctx.db.changes)
        | "total_changes" => pure (.int ctx.db.totalChanges)
        | "last_insert_rowid" => pure (.int ctx.db.lastRowid)
        | "like" | "glob" => do
          let vs ← args.mapM (eval n ctx env)
          match patternValue (asciiLower name = "glob") (vs.headD .null) ((vs.drop 1).headD .null) (vs.drop 2).head? with
          | .ok v => pure v
          | .error m => logicError m
        | _ => do
          let vs ← args.mapM (eval n ctx env)
          match callScalar name vs (args.map carriesJson) with
          | .ok v => pure v
          | .error m => functionError m
    | .cast a ty => do
      let v ← eval n ctx env a
      pure (v.cast (Affinity.ofCast ty))
    | .case operand arms otherwise => do
      let subject ← match operand with
        | some o => some <$> eval n ctx env o
        | none => pure none
      caseArms n ctx env operand subject arms otherwise
    | .collate a _ => eval n ctx env a
    | .raise kind message =>
      match kind with
      | .ignore => throw (.ignore ctx.db)
      | .abort => throw (.abort (.constraint message))
      | .fail => throw (.fail (.constraint message) ctx.db)
      | .rollback => throw (.rollback (.constraint message))
    | .row _ => logicError "row value misused"

/-- The value of the first arm whose condition holds, or of the otherwise branch. -/
def caseArms : Nat → Ctx → Env → Option Expr → Option Value → List (Expr × Expr) → Option Expr → ExecM Value
  | 0, _, _, _, _, _, _ => logicError "expression nested too deeply"
  | n + 1, ctx, env, operand, subject, arms, otherwise =>
    match arms with
    | [] =>
      match otherwise with
      | some o => eval n ctx env o
      | none => pure .null
    | (w, t) :: rest => do
      let wv ← eval n ctx env w
      let hit : Bool := match operand, subject with
        | some o, some s =>
          let aff := comparisonAffinity (exprAffinity n ctx.db env o) (exprAffinity n ctx.db env w)
          compareValues aff (pairCollation env o w) s wv == some .eq
        | _, _ => wv.truth == some true
      if hit then eval n ctx env t else caseArms n ctx env operand subject rest otherwise

/-- The first argument that is not null, evaluating no further. -/
def firstNonNull : Nat → Ctx → Env → List Expr → ExecM Value
  | 0, _, _, _ => logicError "expression nested too deeply"
  | _ + 1, _, _, [] => pure .null
  | n + 1, ctx, env, a :: rest => do
    let v ← eval n ctx env a
    if v.isNull then firstNonNull n ctx env rest else pure v

/-- The value after the first condition that holds, the last argument when one is left over,
else null. -/
def choose : Nat → Ctx → Env → List Expr → ExecM Value
  | 0, _, _, _ => logicError "expression nested too deeply"
  | n + 1, ctx, env, args =>
    match args with
    | c :: v :: rest => do
      let cv ← eval n ctx env c
      if cv.truth = some true then eval n ctx env v else choose n ctx env rest
    | [v] => eval n ctx env v
    | [] => pure .null

/-- The value of an aggregate over the rows of the current group. -/
def aggregate : Nat → Ctx → Env → String → List Expr → Bool → ExecM Value
  | 0, _, _, _, _, _ => logicError "expression nested too deeply"
  | n + 1, ctx, env, name, args, distinct =>
    match env with
    | l :: rest =>
      match l.group with
      | some rows => do
        let argRows ← rows.mapM fun r =>
          args.mapM (eval n ctx ({ l with frames := r, group := none } :: rest))
        let argRows := if distinct then distinctRows (fun r => r.take 1) argRows else argRows
        let coll := match args with
          | a :: _ => ((exprCollation 64 env a).map (·.1)).getD .binary
          | [] => .binary
        match foldAggregate name coll argRows with
        | .ok v => pure v
        | .error m => logicError m
      | none => logicError ("misuse of aggregate: " ++ name ++ "()")
    | [] => logicError ("misuse of aggregate: " ++ name ++ "()")

/-- The rows of a query. -/
def runSelect : Nat → Ctx → Env → Select → ExecM (List (List Value))
  | 0, _, _, _ => logicError "query nested too deeply"
  | n + 1, ctx, env, .mk named first rest orderBy limit offset => do
    let ctx := { ctx with db := ctx.db.withNamed named }
    let lim ← match limit with
      | some e => do pure (some (← limitNumber (← eval n ctx env e)))
      | none => pure none
    let off ← match offset with
      | some e => do pure (max 0 (← limitNumber (← eval n ctx env e)))
      | none => pure 0
    if rest.isEmpty then
      let rows ← runCore n ctx env first orderBy
      let specs ← orderSpecs n ctx env first orderBy
      let rows := if orderBy.isEmpty then rows
        else rows.mergeSort fun a b => compareKeys specs a.2 b.2 ≠ .gt
      pure (applyLimit lim off (rows.map (·.1)))
    else
      let firstRows ← runCore n ctx env first []
      let combined ← rest.foldlM (fun (acc : List (List Value)) (op, core) => do
        let more ← runCore n ctx env core []
        let more := more.map (·.1)
        pure (match op with
          | .unionAll => acc ++ more
          | .union => sortedSet (acc ++ more)
          | .intersect => sortedSet (acc.filter fun r => more.any (sameRow r))
          | .except => sortedSet (acc.filter fun r => !more.any (sameRow r)))) (firstRows.map (·.1))
      let names : List String := match selectColumns n ctx.db env (.mk [] first [] [] none none) with
        | .ok cs => cs.map ColumnInfo.name
        | .error _ => []
      let keyOf (row : List Value) : List Value := orderBy.map fun
        | .mk e _ _ => match e with
          | .lit (.int k) => row.getD (k.toNat - 1) .null
          | .column none nm _ =>
            match names.findIdx? (sameName · nm) with
            | some i => row.getD i .null
            | none => .null
          | _ => .null
      let specs := orderBy.map fun
        | .mk e desc nulls => { descending := desc, nullsFirst := nulls, collation := collationOf e }
      let rows := if orderBy.isEmpty then combined
        else combined.mergeSort fun a b => compareKeys specs (keyOf a) (keyOf b) ≠ .gt
      pure (applyLimit lim off rows)
where
  collationOf : Expr → Collation
    | .collate _ c => collationNamed c
    | _ => .binary

/-- How the terms of an ordering sort. -/
def orderSpecs : Nat → Ctx → Env → Core → List OrderTerm → ExecM (List SortSpec)
  | 0, _, _, _, _ => logicError "query nested too deeply"
  | n + 1, ctx, env, core, terms => do
    let infos ← match core with
      | .query _ _ source _ _ _ =>
        match sourceInfos n ctx.db env source with
        | .ok infos => pure infos
        | .error m => logicError m
      | .values _ => pure []
    let level : Level := { frames := infos.map SourceInfo.empty, aliases := coreAliases core }
    pure (terms.map fun
      | .mk e desc nulls =>
        { descending := desc, nullsFirst := nulls
          collation := ((exprCollation 64 (level :: env) e).map (·.1)).getD .binary })

/-- The rows of a core with their sort keys for an ordering. -/
def runCore : Nat → Ctx → Env → Core → List OrderTerm → ExecM (List (List Value × List Value))
  | 0, _, _, _, _ => logicError "query nested too deeply"
  | n + 1, ctx, env, .values rows, order =>
    rows.mapM fun r => do
      let vs ← r.mapM (eval n ctx env)
      let keys ← order.mapM fun
        | .mk e _ _ => match e with
          | .lit (.int k) => pure (vs.getD (k.toNat - 1) .null)
          | e => eval n ctx env e
      pure (vs, keys)
  | n + 1, ctx, env, core@(.query distinct cols source filter groupBy having), order => do
    let infos ← match sourceInfos n ctx.db env source with
      | .ok infos => pure infos
      | .error m => logicError m
    let rows ← joinRows n ctx env (source.zip infos) [[]] []
    let aliases := coreAliases core
    let scope (frames : List Frame) : Env := { frames, aliases } :: env
    let kept ← rows.filterM fun r => do
      match filter with
      | some f => pure ((← eval n ctx (scope r) f).truth = some true)
      | none => pure true
    let calls := cols.flatMap fun
      | .expr e _ _ => aggregateCalls 64 e
      | _ => []
    let grouped := !groupBy.isEmpty || having.isSome || !calls.isEmpty
    let out ← if grouped then do
        let keyed ← kept.mapM fun r => do pure (← groupBy.mapM (eval n ctx (scope r)), r)
        let specs := groupBy.map fun g =>
          ({ collation := ((exprCollation 64 (scope (infos.map SourceInfo.empty)) g).map (·.1)).getD .binary } : SortSpec)
        let sorted := keyed.mergeSort fun a b => compareKeys specs a.1 b.1 ≠ .gt
        let groups := groupRuns specs sorted
        let groups := if groupBy.isEmpty && groups.isEmpty then [[]] else groups
        let picked ← groups.mapM fun g => do
          let rep ← representative n ctx env aliases calls g (infos.map SourceInfo.empty)
          let genv : Env := { frames := rep, aliases, group := some g } :: env
          let pass : Bool ← match having with
            | some h => pure ((← eval n ctx genv h).truth == some true)
            | none => pure true
          if pass then
            let vs ← resultValues n ctx genv cols
            let keys ← sortKeys n ctx genv cols vs order
            pure (some (vs, keys))
          else pure none
        pure picked.reduceOption
      else
        kept.mapM fun r => do
          let vs ← resultValues n ctx (scope r) cols
          let keys ← sortKeys n ctx (scope r) cols vs order
          pure (vs, keys)
    pure (if distinct then distinctRows (·.1) out else out)
where
  /-- Runs of rows with equal grouping keys. -/
  groupRuns (specs : List SortSpec) (rows : List (List Value × List Frame)) : List (List (List Frame)) :=
    (rows.foldl (fun (acc : List (List Value × List (List Frame))) (k, r) =>
      match acc with
      | (k0, g) :: more => if compareKeys specs k0 k = .eq then (k0, g ++ [r]) :: more else (k, [r]) :: acc
      | [] => [(k, [r])]) []).reverse.map (·.2)

/-- The row of a group that its plain columns take their values from. -/
def representative : Nat → Ctx → Env → List (String × Expr) → List (String × List Expr × Bool) →
    List (List Frame) → List Frame → ExecM (List Frame)
  | 0, _, _, _, _, _, empty => pure empty
  | n + 1, ctx, env, aliases, calls, rows, empty =>
    match calls with
    | [(name, [arg], _)] =>
      let lname := asciiLower name
      if lname = "min" || lname = "max" then do
        let valued ← rows.mapM fun r => do pure (← eval n ctx ({ frames := r, aliases } :: env) arg, r)
        let coll := ((exprCollation 64 ({ frames := empty, aliases } :: env) arg).map (·.1)).getD .binary
        let best := valued.foldl (fun (acc : Option (Value × List Frame)) (v, r) =>
          if v.isNull then acc
          else match acc with
            | none => some (v, r)
            | some (b, br) =>
              let o := b.compareWith coll v
              if (lname = "max" && o = .lt) || (lname = "min" && o = .gt) then some (v, r) else some (b, br)) none
        match best with
        | some (_, r) => pure r
        | none => pure (rows.getLast?.getD empty)
      else pure (rows.getLast?.getD empty)
    | _ => pure (rows.getLast?.getD empty)

/-- The values of the result columns at a row. -/
def resultValues : Nat → Ctx → Env → List ResultColumn → ExecM (List Value)
  | 0, _, _, _ => logicError "query nested too deeply"
  | n + 1, ctx, env, cols => do
    let frames := (env.headD default).frames
    let parts ← cols.mapM fun
      | .star => pure (starValues frames)
      | .tableStar t =>
        match frames.find? (sameName ·.info.label t) with
        | some f => pure f.values
        | none => logicError ("no such table: " ++ t)
      | .expr e _ _ => do pure [← eval n ctx env e]
    pure parts.flatten

/-- The sort keys of a row: a term that is a column number or a result column's name stands for
that column. -/
def sortKeys : Nat → Ctx → Env → List ResultColumn → List Value → List OrderTerm → ExecM (List Value)
  | 0, _, _, _, _, _ => logicError "query nested too deeply"
  | n + 1, ctx, env, cols, vs, order =>
    order.mapM fun
      | .mk e _ _ =>
        match e with
        | .lit (.int k) => pure (vs.getD (k.toNat - 1) .null)
        | .column none nm _ =>
          match labelIndex cols nm with
          | some i => pure (vs.getD i .null)
          | none => eval n ctx env e
        | e => eval n ctx env e

/-- The rows of a FROM clause: each row is a frame per source. -/
def joinRows : Nat → Ctx → Env → List (Source × SourceInfo) → List (List Frame) → List SourceInfo →
    ExecM (List (List Frame))
  | 0, _, _, _, _, _ => logicError "query nested too deeply"
  | _ + 1, _, _, [], acc, _ => pure acc
  | n + 1, ctx, env, (src, info) :: more, acc, before => do
    let .mk kind _ item on _ := src
    let right ← sourceRows n ctx env item info
    let joinsWith (l : List Frame) (r : Frame) : ExecM Bool := do
      let frames := l ++ [r]
      let usingOk := info.merged.all fun c =>
        let left := ({ frames := l } : Level).columnHits none c
        match left.head?, r.info.columns.findIdx? (sameName ·.name c) with
        | some (i, j), some k =>
          let lf := l.getD i default
          let aff := comparisonAffinity ((lf.info.columns.getD j default).affinity) ((info.columns.getD k default).affinity)
          compareValues aff (lf.info.columns.getD j default).collation (lf.values.getD j .null) (r.values.getD k .null) = some .eq
        | _, _ => false
      if !usingOk then return false
      match on with
      | some e => pure ((← eval n ctx ({ frames } :: env) e).truth = some true)
      | none => pure true
    let pairs ← acc.mapM fun l => do
      let hits ← right.filterM (joinsWith l)
      pure (l, hits)
    let joined := pairs.flatMap fun (l, hits) =>
      if hits.isEmpty && (kind = .left || kind = .full) then [l ++ [info.empty]]
      else hits.map fun r => l ++ [r]
    let extra ← if kind = .right || kind = .full then do
        let lonely ← right.filterM fun r => do
          let any ← acc.anyM fun l => joinsWith l r
          pure !any
        pure (lonely.map fun r => before.map SourceInfo.empty ++ [r])
      else pure []
    joinRows n ctx env more (joined ++ extra) (before ++ [info])

/-- The rows of a table, view or subquery as frames. -/
def sourceRows : Nat → Ctx → Env → SourceItem → SourceInfo → ExecM (List Frame)
  | 0, _, _, _, _ => logicError "query nested too deeply"
  | n + 1, ctx, env, .table name _, info =>
    match ctx.db.named? name, ctx.db.source? name with
    | some w, _ => do
      let rows ← match w.rows with
        | some rows => pure rows
        | none => namedRows n ctx env w
      pure (rows.map fun r => { info, values := r })
    | none, some t => pure (t.rows.map fun (id, r) => { info, values := r, rowid := .int id })
    | none, none =>
      match ctx.db.view? name with
      | some v => do
        let rows ← runSelect n ctx [] v.query
        pure (rows.map fun r => { info, values := r })
      | none => logicError ("no such table: " ++ name)
  | n + 1, ctx, env, .query q _, info => do
    let rows ← runSelect n ctx env q
    pure (rows.map fun r => { info, values := r })

/-- The rows of a query a WITH clause names. A recursive one starts a queue with the rows of
its setup cores; each row taken from the queue is a row of the result, past the offset and up
to the limit, and the recursive cores run with that row alone under the query's name, their
rows joining the queue (under `UNION` only rows not seen before). -/
def namedRows : Nat → Ctx → Env → NamedQuery → ExecM (List (List Value))
  | 0, _, _, _ => logicError "query nested too deeply"
  | n + 1, ctx, env, w =>
    match recursiveParts w.name w.query with
    | none => runSelect n ctx env w.query
    | some (first, setupRest, op, recs) => do
      let .mk named _ _ _ limit offset := w.query
      let ctx := { ctx with db := ctx.db.withNamed named }
      let lim ← match limit with
        | some e => do pure (some (← limitNumber (← eval n ctx env e)))
        | none => pure none
      let off ← match offset with
        | some e => do pure (max 0 (← limitNumber (← eval n ctx env e)))
        | none => pure 0
      let initial ← runSelect n ctx env (.mk [] first setupRest [] none none)
      let distinct := op = .union
      let initial := if distinct then distinctRows id initial else initial
      if lim = some 0 then return []
      let mut queue := initial
      let mut seen := initial
      let mut out : Array (List Value) := #[]
      let mut skip := off.toNat
      for _ in List.range recursionLimit do
        match queue with
        | [] => break
        | row :: more =>
          queue := more
          if skip > 0 then skip := skip - 1
          else
            out := out.push row
            if let some l := lim then
              if l ≥ 0 && out.size ≥ l.toNat then break
          let step := { ctx with db := ctx.db.bindNamed { w with rows := some [row] } }
          for core in recs do
            let found ← runSelect n step env (.mk [] core [] [] none none)
            for r in found do
              if distinct then
                if !seen.any (sameRow r) then
                  seen := seen ++ [r]
                  queue := queue ++ [r]
              else queue := queue ++ [r]
      return out.toList

end

end PassPlan.Sql
