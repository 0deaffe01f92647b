import PassPlan.Log.Level
import PassPlan.Value.Basic
import PassPlan.Value.Time
import PassPlan.Decimal.Format
/-!
Log lines: the local date and time to the second, the level and the category in brackets, the
message, then the fields as `key=value` pairs. A key left without a value is shown as missing.
-/
namespace PassPlan.Log

/-- The plain text of a value in a log line: nothing is quoted, lists are bracketed with
blanks between the items, and maps show their entries as `key:value` by key. -/
def valueText : Nat → Value → String
  | 0, _ => ""
  | fuel + 1, v =>
    match v with
    | .null => "<nil>"
    | .bool b => if b then "true" else "false"
    | .int i => toString i
    | .uint n => toString n
    | .float f => Decimal.gText f
    | .str s => s
    | .time t => t.rfc3339
    | .list xs => "[" ++ " ".intercalate (xs.map (valueText fuel)) ++ "]"
    | .dict kvs =>
      let sorted := kvs.mergeSort fun a b => decide (a.1 ≤ b.1)
      "map[" ++ " ".intercalate (sorted.map fun (k, x) => k ++ ":" ++ valueText fuel x) ++ "]"
    | .table kvs =>
      "map[" ++ " ".intercalate (kvs.map fun (k, x) => valueText fuel k ++ ":" ++ valueText fuel x) ++ "]"

/-- The text of a field value. -/
def fieldText (v : Value) : String := valueText (v.weight + 1) v

/-- The pairs of a field list; an odd last key has no value. -/
def pairs : List Value → List String
  | k :: v :: rest => (" " ++ fieldText k ++ "=" ++ fieldText v) :: pairs rest
  | [k] => [" " ++ fieldText k ++ "=<missing>"]
  | [] => []

/-- One log line, without its line break. -/
def format (ts : Instant) (level : Int) (category message : String) (fields : List Value) : String :=
  let stamp := (ts.dateTimeText.toList.map fun c => if c = ' ' then 'T' else c)
  String.ofList stamp ++ " [" ++ Level.nameOf level ++ "] [" ++ category ++ "] " ++ message ++ String.join (pairs fields)

end PassPlan.Log
