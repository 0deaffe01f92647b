import PassPlan.Json.Writer
import PassPlan.Value.Basic
import PassPlan.Decimal.Format
import PassPlan.Decimal.Nearest
/-!
Dynamic values as JSON. Strings, booleans, null, lists and string-keyed maps are themselves;
integers are JSON integers; a float is `{"float": text}` with its shortest text, so that the
integer 1 and the float 1 stay apart; an instant is `{"time": text}` in UTC; a map with other
keys is `{"map": [[key, value], ...]}` sorted by the JSON text of the keys. Reading is the
inverse: a JSON integer is an integer (unsigned when only that fits), any other number a float.
-/
namespace PassPlan

namespace Value

/-- The JSON form of a value. -/
def toJson : Nat → Value → Json
  | 0, _ => .null
  | fuel + 1, v =>
    match v with
    | .null => .null
    | .bool b => .bool b
    | .int i => .int i
    | .uint n => .nat n
    | .float f => .obj [("float", .str (Decimal.gText f))]
    | .str s => .str s
    | .time t => .obj [("time", .str t.utc.rfc3339)]
    | .list xs => .arr (xs.map (toJson fuel))
    | .dict kvs => .obj (kvs.map fun (k, x) => (k, toJson fuel x))
    | .table kvs =>
      let entries := kvs.map fun (k, x) => (toJson fuel k, toJson fuel x)
      let sorted := entries.mergeSort fun a b => decide (Json.compact a.1 ≤ Json.compact b.1)
      .obj [("map", .arr (sorted.map fun (k, x) => .arr [k, x]))]

/-- The JSON form of a value, with fuel for its whole depth. -/
def json (v : Value) : Json := toJson (v.weight + 1) v

end Value

/-- The double a decimal number text stands for: optional sign, digits, optional fraction and
exponent; also `NaN` and signed or unsigned `Inf`. -/
def floatOfText (t : String) : Option Float :=
  let (neg, cs) := match t.toList with
    | '-' :: rest => (true, rest)
    | '+' :: rest => (false, rest)
    | cs => (false, cs)
  let signed (f : Float) : Float := if neg then -f else f
  let word := (String.ofList cs).toLower
  if word = "nan" then some (0.0 / 0.0)
  else if word = "inf" || word = "infinity" then some (signed (1.0 / 0.0))
  else
    let whole := cs.takeWhile Char.isDigit
    let cs := cs.dropWhile Char.isDigit
    let (frac, cs) := match cs with
      | '.' :: rest => (rest.takeWhile Char.isDigit, rest.dropWhile Char.isDigit)
      | _ => ([], cs)
    let expo : Option Int := match cs with
      | [] => some 0
      | e :: rest =>
        if e = 'e' || e = 'E' then
          let (eneg, ds) := match rest with
            | '-' :: r => (true, r)
            | '+' :: r => (false, r)
            | r => (false, r)
          if !ds.isEmpty && ds.all Char.isDigit then
            let n : Int := (String.ofList ds).toNat!
            some (if eneg then -n else n)
          else none
        else none
    if whole.isEmpty && frac.isEmpty then none
    else match expo with
      | none => none
      | some x =>
        let m := (String.ofList (whole ++ frac)).toNat!
        some (signed (Decimal.ofDecimal m (x - frac.length)))

namespace Json

/-- The value a JSON number stands for. -/
def numberValue (t : String) : Value :=
  match t.toInt? with
  | some i =>
    if -(Nat.pow 2 63 : Int) ≤ i && i < Nat.pow 2 63 then .int i
    else if 0 ≤ i && i < Nat.pow 2 64 then .uint i.toNat
    else .float ((floatOfText t).getD 0.0)
  | none => .float ((floatOfText t).getD 0.0)

/-- The value a JSON document stands for. -/
def toValue : Nat → Json → Value
  | 0, _ => .null
  | fuel + 1, j =>
    match j with
    | .null => .null
    | .bool b => .bool b
    | .num t => numberValue t
    | .str s => .str s
    | .arr xs => .list (xs.map (toValue fuel))
    | .obj [("float", .str t)] => .float ((floatOfText t).getD 0.0)
    | .obj kvs => .dict (Attrs.ofList (kvs.map fun (k, x) => (k, toValue fuel x)))

mutual
/-- The number of values in a JSON document, a bound on its depth. -/
def weight : Json → Nat
  | .arr xs => weightList xs + 1
  | .obj kvs => weightMembers kvs + 1
  | _ => 1
/-- The weight of a list of documents. -/
def weightList : List Json → Nat
  | [] => 0
  | x :: xs => x.weight + weightList xs
/-- The weight of the members of an object. -/
def weightMembers : List (String × Json) → Nat
  | [] => 0
  | (_, x) :: rest => x.weight + weightMembers rest
end

/-- The value of a JSON document. -/
def value (j : Json) : Value := toValue (j.weight + 1) j

end Json
end PassPlan
