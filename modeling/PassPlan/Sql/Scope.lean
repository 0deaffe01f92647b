import PassPlan.Sql.Database
/-!
What a name in an expression can reach. A query sees the rows of its FROM clause, one source
after another, then the sources of the queries around it; a trigger program also sees the row
it fires for as `NEW` and `OLD`, and an upsert the row it could not insert as `excluded`, both
only by a qualified name. An unqualified name is looked up in the columns of every source of a
level, then as the row id when exactly one source has one, then among the names the level's
result columns were given, before the next level out. A name that several sources have is
ambiguous, except for a column that a join's `USING` or `NATURAL` took from an earlier source.
-/
namespace PassPlan.Sql

/-- A column a name can reach: its name, the affinity it lends comparisons and its collation. -/
structure ColumnInfo where
  name : String
  affinity : Option Affinity := none
  collation : Collation := .binary
deriving Inhabited

/-- A table, view or subquery that names can reach. -/
structure SourceInfo where
  /-- The name that qualifies its columns: its alias, or the table's name. -/
  label : String
  columns : List ColumnInfo
  /-- Whether it is a table, whose row id names can reach. -/
  hasRowid : Bool := false
  /-- The column that is the row id, if one is. -/
  rowidColumn : Option Nat := none
  /-- Columns that a join's `USING` or `NATURAL` takes from an earlier source. -/
  merged : List String := []
  /-- Whether only qualified names reach it. -/
  qualifiedOnly : Bool := false
deriving Inhabited

/-- The columns of a table as names see them. -/
def Table.info (t : Table) (label : Option String := none) : SourceInfo :=
  { label := label.getD t.name
    columns := t.columns.map fun c =>
      { name := c.name, affinity := some (Affinity.ofType c.declType), collation := c.collation }
    hasRowid := true
    rowidColumn := t.rowidColumn? }

/-- A row of a source: its values and row id. -/
structure Frame where
  info : SourceInfo
  values : List Value := []
  rowid : Value := .null
deriving Inhabited

/-- The frame of a source with no row, where every value is null. -/
def SourceInfo.empty (s : SourceInfo) : Frame :=
  { info := s, values := s.columns.map fun _ => .null }

/-- One level of a query: the current row of each source, the named result columns, and the
rows of the current group when the query groups. -/
structure Level where
  frames : List Frame := []
  aliases : List (String × Expr) := []
  group : Option (List (List Frame)) := none
deriving Inhabited

/-- The levels a name is looked up in, innermost first. -/
abbrev Env := List Level

/-- Where a name leads: a column of a frame, the row id of a frame, a result column's
expression, or a constant for the words `TRUE` and `FALSE`. -/
inductive Reach where
  | cell (depth frame column : Nat) (info : ColumnInfo)
  | rowid (depth frame : Nat)
  | aliased (depth : Nat) (e : Expr)
  | constant (v : Value)
deriving Inhabited

/-- Whether a name is one of the names of the row id. -/
def isRowidName (n : String) : Bool := ["rowid", "oid", "_rowid_"].contains (foldName n)

/-- Whether a frame answers to a qualifier, or to none. -/
def Frame.answers (f : Frame) : Option String → Bool
  | some t => sameName f.info.label t
  | none => !f.info.qualifiedOnly

/-- The columns of a level's frames that a name matches, as frame and column positions; a
column that a join took from an earlier matching source is left out. -/
def Level.columnHits (l : Level) (table : Option String) (name : String) : List (Nat × Nat) :=
  let hits := l.frames.zipIdx.filterMap fun (f, i) =>
    if f.answers table then (f.info.columns.findIdx? (sameName ·.name name)).map (i, ·) else none
  match hits with
  | [] => []
  | h :: rest =>
    h :: if table.isSome then rest
      else rest.filter fun (i, _) =>
        !((l.frames.getD i default).info.merged.any (sameName · name))

/-- The text of a name with its qualifier, as messages show it. -/
def nameText (table : Option String) (name : String) : String :=
  match table with
  | some t => t ++ "." ++ name
  | none => name

/-- What a name reaches in a level: none, exactly one place, or a message when it is
ambiguous. -/
def Level.reach (l : Level) (depth : Nat) (table : Option String) (name : String) :
    Except String (Option Reach) :=
  match l.columnHits table name with
  | [(i, j)] =>
    let f := l.frames.getD i default
    .ok (some (.cell depth i j (f.info.columns.getD j default)))
  | _ :: _ :: _ => .error ("ambiguous column name: " ++ nameText table name)
  | [] =>
    let rowids := l.frames.zipIdx.filter fun (f, _) => f.answers table && f.info.hasRowid
    if isRowidName name && !rowids.isEmpty then
      match rowids with
      | [(_, i)] => .ok (some (.rowid depth i))
      | _ => .error ("ambiguous column name: " ++ nameText table name)
    else if table.isNone then
      .ok ((l.aliases.find? (sameName ·.1 name)).map fun (_, e) => .aliased depth e)
    else .ok none

/-- What a name reaches in an environment, from the innermost level out. -/
def Env.reach (env : Env) (table : Option String) (name : String) (quoted : Bool) :
    Except String Reach :=
  go env 0
where
  go : List Level → Nat → Except String Reach
    | [], _ =>
      if table.isNone && foldName name = "true" then .ok (.constant (.int 1))
      else if table.isNone && foldName name = "false" then .ok (.constant (.int 0))
      else if table.isNone && quoted then
        .error ("no such column: \"" ++ name ++ "\" - should this be a string literal in single-quotes?")
      else .error ("no such column: " ++ nameText table name)
    | l :: rest, depth => do
      match ← l.reach depth table name with
      | some r => .ok r
      | none => go rest (depth + 1)

/-- The frame at a depth and position. -/
def Env.frame (env : Env) (depth i : Nat) : Frame :=
  ((env.getD depth default).frames).getD i default

/-- The environment with the innermost level's frames replaced. -/
def Env.withFrames (env : Env) (frames : List Frame) : Env :=
  match env with
  | [] => [{ frames }]
  | l :: rest => { l with frames } :: rest

end PassPlan.Sql
