import PassPlan.Toml.Read
import PassPlan.Value.Basic
/-!
What a TOML document means as one table. Every key is defined once. A table header defines its
table, which must not be defined already, neither by another header nor by dotted keys; the
tables on the way to it may be new. A table that dotted keys made is closed once another header
follows. An array-of-tables header adds a table to its array, and the keys below it start
afresh. No key may run through a value, and an inline table is whole as written: nothing is
added to it later. A document that keeps these rules is read into nested maps; integers,
floats, strings and booleans are kept, and moments become instants.
-/
namespace PassPlan.Toml

/-- What a key was defined as. -/
inductive KeyKind where
  | table
  | arrayTable
  | value
deriving DecidableEq

/-- A key met so far: its full path, what it is, and whether it is closed to headers and to
dotted keys. -/
structure KeyMark where
  path : List String
  kind : KeyKind
  closed : Bool

/-- The keys met so far and the path of the table the pairs go into. -/
structure Marks where
  keys : List KeyMark := []
  current : List String := []

namespace Marks

/-- The mark of a path. -/
def find? (m : Marks) (p : List String) : Option KeyMark := m.keys.find? (·.path == p)

/-- Adds the mark of a new path. -/
def add (m : Marks) (k : KeyMark) : Marks := { m with keys := m.keys ++ [k] }

/-- Changes the mark of a path. -/
def update (m : Marks) (p : List String) (f : KeyMark → KeyMark) : Marks :=
  { m with keys := m.keys.map fun k => if k.path == p then f k else k }

/-- Whether a path lies strictly below another. -/
def below (p q : List String) : Bool := p.isPrefixOf q && p.length < q.length

/-- Closes every key below a path. -/
def closeBelow (m : Marks) (p : List String) : Marks :=
  { m with keys := m.keys.map fun k => if below p k.path then { k with closed := true } else k }

/-- Forgets every key below a path. -/
def clearBelow (m : Marks) (p : List String) : Marks :=
  { m with keys := m.keys.filter fun k => !below p k.path }

/-- Walks the tables on the way to a header's key, making new ones open; none may be a value. -/
def walk (m : Marks) (key : List String) : Except String Marks :=
  ((List.range (key.length - 1)).map fun i => key.take (i + 1)).foldlM (fun m p =>
    match m.find? p with
    | none => .ok (m.add ⟨p, .table, false⟩)
    | some k => if k.kind = .value then .error "expected a table, not a value" else .ok m) m

/-- Marks a table header. -/
def table (m : Marks) (key : List String) : Except String Marks := do
  let m ← (m.closeBelow m.current).walk key
  let m ← match m.find? key with
    | some k =>
      if k.kind ≠ .table then .error "key should be a table"
      else if k.closed then .error "table already exists"
      else .ok (m.update key fun k => { k with closed := true })
    | none => .ok (m.add ⟨key, .table, true⟩)
  .ok { m with current := key }

/-- Marks an array-of-tables header. -/
def arrayTable (m : Marks) (key : List String) : Except String Marks := do
  let m ← (m.closeBelow m.current).walk key
  let m ← match m.find? key with
    | some k => if k.kind ≠ .arrayTable then .error "key should be an array table" else .ok (m.clearBelow key)
    | none => .ok (m.add ⟨key, .arrayTable, true⟩)
  .ok { m with current := key }

/-- Marks the key of a pair below the current table: the tables on its way may be new or open
ones, and the key itself new. -/
def pairKey (m : Marks) (key : List String) : Except String Marks := do
  let full := m.current ++ key
  let m ← ((List.range key.length).map fun i => (m.current ++ key.take (i + 1), i + 1 == key.length)).foldlM
    (fun m (p, last) =>
      match m.find? p with
      | none => .ok (m.add ⟨p, .table, false⟩)
      | some k =>
        if last then .error "key is already defined"
        else if k.kind ≠ .table then .error "expected a table"
        else if k.closed then .error "cannot redefine a table that has already been defined"
        else .ok m) m
  .ok (m.update full fun k => { k with kind := .value })

end Marks

mutual
/-- Checks the inline tables within a value, each on its own. -/
def checkDatum : Datum → Except String Unit
  | .array xs => checkItems xs
  | .inline ps => do let _ ← checkPairs {} ps
  | _ => .ok ()

/-- Checks the inline tables within the items of an array. -/
def checkItems : List Datum → Except String Unit
  | [] => .ok ()
  | x :: xs => do checkDatum x; checkItems xs

/-- Checks pairs in order, their keys and the inline tables in their values. -/
def checkPairs (m : Marks) : List (List String × Datum) → Except String Marks
  | [] => .ok m
  | (k, v) :: rest => do
    let m ← m.pairKey k
    checkDatum v
    checkPairs m rest
end

/-- Checks a document's lines in order. -/
def checkExprs (m : Marks) : List Expr → Except String Unit
  | [] => .ok ()
  | .pair k v :: rest => do
    let m ← m.pairKey k
    checkDatum v
    checkExprs m rest
  | .table k :: rest => do checkExprs (← m.table k) rest
  | .arrayTable k :: rest => do checkExprs (← m.arrayTable k) rest

/-- Changes the table at a path below a map, making missing tables on the way; a step into an
array of tables goes into its last table. -/
def atTable : List String → (List (String × Value) → List (String × Value)) →
    List (String × Value) → List (String × Value)
  | [], f, kvs => f kvs
  | k :: rest, f, kvs =>
    match kvs.lookup k with
    | some (.dict inner) => Attrs.set kvs k (.dict (atTable rest f inner))
    | some (.list xs) =>
      match xs.getLast? with
      | some (.dict inner) => Attrs.set kvs k (.list (xs.dropLast ++ [.dict (atTable rest f inner)]))
      | _ => kvs
    | some _ => kvs
    | none => Attrs.set kvs k (.dict (atTable rest f []))

/-- Sets a value under a dotted key of a map. -/
def setAt (key : List String) (v : Value) (kvs : List (String × Value)) : List (String × Value) :=
  match key.getLast? with
  | some last => atTable key.dropLast (fun inner => Attrs.set inner last v) kvs
  | none => kvs

mutual
/-- The value a datum stands for. -/
def Datum.toValue : Datum → Value
  | .str s => .str s
  | .int i => .int i
  | .float f => .float f
  | .bool b => .bool b
  | .moment m => .time m.instant
  | .array xs => .list (itemValues xs)
  | .inline ps => .dict (pairValues [] ps)

/-- The values of the items of an array. -/
def itemValues : List Datum → List Value
  | [] => []
  | x :: xs => x.toValue :: itemValues xs

/-- A map with pairs set in order. -/
def pairValues (kvs : List (String × Value)) : List (List String × Datum) → List (String × Value)
  | [] => kvs
  | (k, v) :: rest => pairValues (setAt k v.toValue kvs) rest
end

/-- The map of a document's lines, with the path of the table that pairs go into. -/
def build (kvs : List (String × Value)) (current : List String) : List Expr → List (String × Value)
  | [] => kvs
  | .pair k v :: rest => build (setAt (current ++ k) v.toValue kvs) current rest
  | .table k :: rest => build (atTable k id kvs) k rest
  | .arrayTable k :: rest =>
    let add (inner : List (String × Value)) : List (String × Value) :=
      match k.getLast? with
      | some last =>
        match inner.lookup last with
        | some (.list xs) => Attrs.set inner last (.list (xs ++ [.dict []]))
        | _ => Attrs.set inner last (.list [.dict []])
      | none => inner
    build (atTable k.dropLast add kvs) k rest

/-- Reads a TOML text as one table, or says why it is not a valid document. -/
def parse (text : String) : Except String Value := do
  let exprs ← readExpressions text
  checkExprs {} exprs
  .ok (.dict (build [] [] exprs))

end PassPlan.Toml
