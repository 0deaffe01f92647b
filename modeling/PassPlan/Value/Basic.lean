import PassPlan.Value.Time
/-!
Dynamic values, as data files and requests carry them: null, booleans, integers (signed, and
unsigned above the signed range), floating-point numbers, strings, instants, lists, maps with
string keys and maps with keys of any kind. Maps are kept sorted by key, so two maps with the
same entries are the same list. Equality is structural, except that floats compare as numbers:
a NaN equals nothing, and the two zeros are equal.
-/
namespace PassPlan

/-- A dynamic value. -/
inductive Value where
  | null
  | bool (b : Bool)
  /-- A signed integer within 64 bits. -/
  | int (i : Int)
  /-- An unsigned integer above the signed 64-bit range. -/
  | uint (n : Nat)
  | float (f : Float)
  | str (s : String)
  | time (t : Instant)
  | list (xs : List Value)
  /-- A map with string keys, sorted by key. -/
  | dict (kvs : List (String × Value))
  /-- A map whose keys are not all strings, in key order. -/
  | table (kvs : List (Value × Value))
deriving Inhabited, Repr

namespace Value

mutual
/-- Deep equality: floats by numeric comparison, everything else by structure. -/
def deepEq : Value → Value → Bool
  | null, null => true
  | bool a, bool b => a == b
  | int a, int b => a == b
  | uint a, uint b => a == b
  | float a, float b => a == b
  | str a, str b => a == b
  | time a, time b => a == b
  | list a, list b => listEq a b
  | dict a, dict b => dictEq a b
  | table a, table b => tableEq a b
  | _, _ => false
/-- Deep equality of lists, element by element. -/
def listEq : List Value → List Value → Bool
  | [], [] => true
  | x :: xs, y :: ys => deepEq x y && listEq xs ys
  | _, _ => false
/-- Deep equality of string-keyed maps, entry by entry. -/
def dictEq : List (String × Value) → List (String × Value) → Bool
  | [], [] => true
  | (k, x) :: xs, (l, y) :: ys => k == l && deepEq x y && dictEq xs ys
  | _, _ => false
/-- Deep equality of maps with arbitrary keys, entry by entry. -/
def tableEq : List (Value × Value) → List (Value × Value) → Bool
  | [], [] => true
  | (k, x) :: xs, (l, y) :: ys => deepEq k l && deepEq x y && tableEq xs ys
  | _, _ => false
end

mutual
/-- The number of constructors in a value, a bound on the depth of its encoding. -/
def weight : Value → Nat
  | .list xs => weightList xs + 1
  | .dict kvs => weightDict kvs + 1
  | .table kvs => weightTable kvs + 1
  | _ => 1
/-- The weight of a list of values. -/
def weightList : List Value → Nat
  | [] => 0
  | x :: xs => x.weight + weightList xs
/-- The weight of the values of a map. -/
def weightDict : List (String × Value) → Nat
  | [] => 0
  | (_, v) :: rest => v.weight + weightDict rest
/-- The weight of the keys and values of a map. -/
def weightTable : List (Value × Value) → Nat
  | [] => 0
  | (k, v) :: rest => k.weight + v.weight + weightTable rest
end

/-- The name of a value's type as error messages spell it. -/
def typeName : Value → String
  | null => "<nil>"
  | bool _ => "bool"
  | int _ => "int"
  | uint _ => "uint64"
  | float _ => "float64"
  | str _ => "string"
  | time _ => "time.Time"
  | list _ => "[]interface \x7b\x7d"
  | dict _ => "map[string]interface \x7b\x7d"
  | table _ => "map[interface \x7b\x7d]interface \x7b\x7d"

end Value

/-- Attributes: string keys in increasing order, each with a value. -/
abbrev Attrs := List (String × Value)

namespace Attrs

/-- The value under a key. -/
def get? (a : Attrs) (k : String) : Option Value := a.lookup k

/-- Sets the value under a key, keeping the keys in order. -/
def set (a : Attrs) (k : String) (v : Value) : Attrs :=
  match a with
  | [] => [(k, v)]
  | (k', v') :: rest =>
    if k = k' then (k, v) :: rest
    else if k < k' then (k, v) :: (k', v') :: rest
    else (k', v') :: set rest k v

/-- Removes a key. -/
def erase (a : Attrs) (k : String) : Attrs := a.filter (·.1 ≠ k)

/-- The keys in increasing order. -/
def keys (a : Attrs) : List String := a.map (·.1)

/-- Builds attributes from entries, a later entry for a key replacing an earlier one. -/
def ofList (kvs : List (String × Value)) : Attrs := kvs.foldl (fun a (k, v) => a.set k v) []

end Attrs
end PassPlan
