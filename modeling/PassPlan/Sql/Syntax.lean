import PassPlan.Sql.Value
/-!
The statements of the SQL dialect the history database understands.

Queries name queries of their own in a WITH clause, then join one or more cores by compound
operators, with an ordering and limits; a core selects from joined tables and subqueries with a
filter, a grouping and a condition on groups, or lists rows of values. Expressions are literals, parameters, columns, operators,
pattern matches, ranges, membership in a list or a subquery, subqueries, function calls,
conversions, choices, collations and the raise of a trigger program. Statements create, alter
and drop schema objects, insert, update and delete rows, run queries, set pragmas and mark
transactions.
-/
namespace PassPlan.Sql

/-- The binary operators. -/
inductive BinOp where
  | eq | ne | lt | le | gt | ge
  | is | isNot
  | and | or
  | add | sub | mul | div | rem
  | bitAnd | bitOr | shl | shr
  | concat
  | extract | extractText
deriving DecidableEq, Repr, Inhabited

/-- The unary operators. -/
inductive UnOp where
  | neg | plus | not | bitNot
deriving DecidableEq, Repr, Inhabited

/-- How a trigger program aborts. -/
inductive RaiseKind where
  | ignore | rollback | abort | fail
deriving DecidableEq, Repr, Inhabited

/-- How two queries combine. -/
inductive CompoundOp where
  | union | unionAll | intersect | except
deriving DecidableEq, Repr, Inhabited

/-- The words of a compound operator. -/
def CompoundOp.words : CompoundOp → String
  | .union => "UNION"
  | .unionAll => "UNION ALL"
  | .intersect => "INTERSECT"
  | .except => "EXCEPT"

/-- How a table joins the ones before it. -/
inductive JoinKind where
  | inner | cross | left | right | full
deriving DecidableEq, Repr, Inhabited

mutual
/-- An expression. -/
inductive Expr where
  | lit (v : Value)
  | param (index : Nat)
  /-- A column, with the table or alias that qualifies it; `quoted` when its name was written
  in double quotes. -/
  | column (table : Option String) (name : String) (quoted : Bool)
  | unary (op : UnOp) (e : Expr)
  | binary (op : BinOp) (a b : Expr)
  | isNull (e : Expr) (negated : Bool)
  /-- A pattern match: `LIKE` or, when `glob` is set, `GLOB`. -/
  | like (glob : Bool) (a pattern : Expr) (escape : Option Expr) (negated : Bool)
  | between (e lo hi : Expr) (negated : Bool)
  | inList (e : Expr) (items : List Expr) (negated : Bool)
  | inSelect (e : Expr) (q : Select) (negated : Bool)
  | exists (q : Select)
  | scalar (q : Select)
  /-- A function call by the name as written; `star` for `count(*)`. -/
  | call (name : String) (args : List Expr) (distinct star : Bool)
  | cast (e : Expr) (typeName : String)
  | case (operand : Option Expr) (arms : List (Expr × Expr)) (otherwise : Option Expr)
  | collate (e : Expr) (name : String)
  | raise (kind : RaiseKind) (message : String)
  /-- A row value: several expressions in parentheses. -/
  | row (items : List Expr)

/-- A query: the queries its WITH clause names, then cores joined by compound operators,
ordered and limited. -/
inductive Select where
  | mk (named : List CommonTable) (first : Core) (rest : List (CompoundOp × Core))
      (orderBy : List OrderTerm) (limit offset : Option Expr)

/-- A query a WITH clause names, with the names it gives its columns if it gives any. -/
inductive CommonTable where
  | mk (name : String) (columns : List String) (q : Select)

/-- A single query, or a list of rows of values. -/
inductive Core where
  | query (distinct : Bool) (columns : List ResultColumn) (source : List Source)
      (filter : Option Expr) (groupBy : List Expr) (having : Option Expr)
  | values (rows : List (List Expr))

/-- An item of a FROM clause with how it joins the items before it. -/
inductive Source where
  | mk (join : JoinKind) (natural : Bool) (item : SourceItem) (on : Option Expr)
      (usingColumns : List String)

/-- A table or a subquery in a FROM clause, with its alias. -/
inductive SourceItem where
  | table (name : String) (label : Option String)
  | query (q : Select) (label : Option String)

/-- What a query returns: every column, every column of a table, or an expression with the
name given to it, if any, and the text it was written as. -/
inductive ResultColumn where
  | star
  | tableStar (table : String)
  | expr (e : Expr) (label : Option String) (span : String)

/-- A term of an ordering: the expression, whether it descends, and where nulls go when said. -/
inductive OrderTerm where
  | mk (e : Expr) (descending : Bool) (nullsFirst : Option Bool)
end

instance : Inhabited Expr := ⟨.lit .null⟩
instance : Inhabited Core := ⟨.values []⟩
instance : Inhabited Select := ⟨.mk [] default [] [] none none⟩

/-- The name a WITH clause gives a query. -/
def CommonTable.name : CommonTable → String
  | .mk name _ _ => name

/-- What a change to a parent row does to the rows whose foreign key names it. -/
inductive FkAction where
  | noAction | restrict | setNull | setDefault | cascade
deriving DecidableEq, Repr, Inhabited

/-- A foreign key: the parent table and columns, and the actions on deleting and on updating a
parent row. -/
structure Reference where
  table : String
  columns : List String := []
  onDelete : FkAction := .noAction
  onUpdate : FkAction := .noAction
deriving Repr, Inhabited

/-- What a conflict with a constraint does to a statement. -/
inductive Conflict where
  | abort | fail | ignore | replace | rollback
deriving DecidableEq, Repr, Inhabited

/-- A check constraint: the condition, the text it was written as, and its name if it has
one. -/
structure Check where
  condition : Expr
  source : String
  name : Option String := none
deriving Inhabited

/-- A column as declared. -/
structure ColumnDef where
  name : String
  declType : String := ""
  notNull : Bool := false
  primaryKey : Bool := false
  descending : Bool := false
  autoincrement : Bool := false
  unique : Bool := false
  default : Option Expr := none
  references : Option Reference := none
  collation : Collation := .binary
  checks : List Check := []
  /-- What a conflict on the column's not-null, primary key or unique constraint does. -/
  onConflict : Conflict := .abort
deriving Inhabited

/-- A constraint over several columns of a table. -/
inductive TableConstraint where
  | primaryKey (columns : List String) (onConflict : Conflict)
  | unique (columns : List String) (onConflict : Conflict)
  | foreignKey (columns : List String) (ref : Reference)
  | check (c : Check)
deriving Inhabited

/-- When a trigger runs. -/
inductive Timing where
  | before | after | insteadOf
deriving DecidableEq, Repr, Inhabited

/-- What a trigger runs on; an update trigger may name the columns it watches. -/
inductive Event where
  | insert
  | update (columns : List String)
  | delete
deriving DecidableEq, Repr, Inhabited

/-- Whether two events are of the same kind. -/
def Event.sameKind : Event → Event → Bool
  | .insert, .insert | .delete, .delete | .update _, .update _ => true
  | _, _ => false

/-- The kinds of schema objects. -/
inductive ObjectKind where
  | table | index | trigger | view
deriving DecidableEq, Repr, Inhabited

/-- The name of a kind of schema object. -/
def ObjectKind.name : ObjectKind → String
  | .table => "table"
  | .index => "index"
  | .trigger => "trigger"
  | .view => "view"

/-- Where the rows of an insertion come from. -/
inductive InsertSource where
  | values (rows : List (List Expr))
  | query (q : Select)
  | defaults
deriving Inhabited

/-- What an insertion does when a row clashes with a uniqueness constraint: nothing, or an
update of the row it clashes with. -/
inductive UpsertAction where
  | nothing
  | update (sets : List (List String × Expr)) (filter : Option Expr)
deriving Inhabited

/-- An upsert clause: the columns of the constraint it is for, if named, with their condition,
and its action. -/
structure Upsert where
  target : Option (List String)
  targetFilter : Option Expr := none
  action : UpsertAction
deriving Inhabited

/-- The value a pragma is set to. -/
inductive PragmaValue where
  | none
  | assign (v : String)
  | call (v : String)
deriving Inhabited

/-- A statement. -/
inductive Stmt where
  | createTable (name : String) (ifNotExists : Bool) (columns : List ColumnDef)
      (constraints : List TableConstraint)
  | createTableAs (name : String) (ifNotExists : Bool) (q : Select)
  | createIndex (name : String) (ifNotExists unique : Bool) (table : String)
      (columns : List Expr) (filter : Option Expr)
  | createTrigger (name : String) (ifNotExists : Bool) (timing : Timing) (event : Event)
      (table : String) (condition : Option Expr) (body : List Stmt)
  | createView (name : String) (ifNotExists : Bool) (columns : List String) (query : Select)
  | drop (kind : ObjectKind) (name : String) (ifExists : Bool)
  | renameTable (table newName : String)
  | renameColumn (table old new : String)
  | addColumn (table : String) (column : ColumnDef)
  | dropColumn (table column : String)
  | insert (conflict : Option Conflict) (table : String) (label : Option String)
      (columns : Option (List String)) (rows : InsertSource) (upserts : List Upsert)
      (returning : List ResultColumn)
  | update (conflict : Option Conflict) (table : String) (label : Option String)
      (sets : List (List String × Expr)) (filter : Option Expr) (returning : List ResultColumn)
  | delete (table : String) (label : Option String) (filter : Option Expr)
      (returning : List ResultColumn)
  | select (q : Select)
  | pragma (name : String) (value : PragmaValue)
  | begin
  | commit
  | rollback
  | savepoint (name : String)
  | release (name : String)
  | rollbackTo (name : String)
  | vacuum
  | analyze
  | reindex
  | explain (s : Stmt)
  /-- A change statement with the queries its WITH clause names. -/
  | withTables (named : List CommonTable) (s : Stmt)
deriving Inhabited

end PassPlan.Sql
