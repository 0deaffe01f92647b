import PassPlan.Yaml.Emit
import PassPlan.Yaml.Resolve
import PassPlan.Decimal.Format
import PassPlan.Text.Letter
/-!
Encoding values as emitter events. A string is written plain when read back plain it would
again be a string and is not one of the old spellings of booleans or a sexagesimal number;
otherwise it is double-quoted, and a string with a line break is a literal block. Map keys
come in natural order: numbers by value, strings letter by letter with runs of digits compared
as numbers.
-/
namespace PassPlan.Yaml

/-- The old spellings of booleans, quoted on output so older readers do not take them as such. -/
def isOldBool (s : String) : Bool :=
  ["y", "Y", "yes", "Yes", "YES", "on", "On", "ON", "n", "N", "no", "No", "NO", "off", "Off",
    "OFF"].contains s

/-- Whether a text reads as a sexagesimal number such as `1:20:30.5`. -/
def isBase60Float (s : String) : Bool :=
  let cs := match s.toList with
    | '+' :: rest | '-' :: rest => rest
    | cs => cs
  let isD (c : Char) := c.isDigit
  match cs with
  | c :: rest =>
    if !isD c || !s.toList.contains ':' then false
    else
      let rest := rest.dropWhile fun c => isD c || c = '_'
      let rec groups : Nat → List Char → Bool → Bool
        | 0, _, _ => false
        | fuel + 1, cs, seen =>
          match cs with
          | ':' :: more =>
            let ds := more.takeWhile isD
            let after := more.dropWhile isD
            let ok := ds.length = 1 || (ds.length = 2 && ds.headD '0' ≤ '5')
            if ok then groups fuel after true else false
          | '.' :: more => seen && more.all fun c => isD c || c = '_'
          | [] => seen
          | _ => false
      groups (rest.length + 1) rest false
  | [] => false

/-- A signed 64-bit wrap of an integer. -/
def wrap64 (x : Int) : Int := (x + Nat.pow 2 63) % Nat.pow 2 64 - Nat.pow 2 63

/-- The natural order of strings. -/
def naturalLess (a b : String) : Bool :=
  let ar := a.toList.toArray
  let br := b.toList.toArray
  let digitVal (c : Char) : Int := (c.toNat : Int) - 48
  let rec go : Nat → Nat → Bool → Bool
    | 0, _, _ => ar.size < br.size
    | fuel + 1, i, digits =>
      if i < ar.size && i < br.size then
        let x := ar.getD i ' '
        let y := br.getD i ' '
        if x = y then go fuel (i + 1) (Text.isDecimalDigit x)
        else
          let al := Text.isLetter x
          let bl := Text.isLetter y
          if al && bl then x < y
          else if al || bl then (if digits then al else bl)
          else
            let seeded :=
              if x = '0' || y = '0' then
                ((List.range i).reverse.takeWhile fun j => Text.isDecimalDigit (ar.getD j ' ')).any
                  fun j => ar.getD j ' ' ≠ '0'
              else false
            let start : Int := if seeded then 1 else 0
            let run (s : Array Char) : Int × Nat :=
              let ds := (s.toList.drop i).takeWhile Text.isDecimalDigit
              (ds.foldl (fun n c => wrap64 (n * 10 + digitVal c)) start, i + ds.length)
            let (an, ai) := run ar
            let (bn, bi) := run br
            if an ≠ bn then an < bn
            else if ai ≠ bi then ai < bi
            else x < y
      else ar.size < br.size
  go (ar.size + 1) 0 false

/-- The kind rank of a value as a map key. -/
def keyKind : Value → Nat
  | .bool _ => 1
  | .int _ => 2
  | .uint _ => 11
  | .float _ => 14
  | .null => 20
  | .dict _ | .table _ => 21
  | .list _ => 23
  | .str _ => 24
  | .time _ => 25

/-- A number or boolean key as a float, for ordering. -/
def keyNumber : Value → Option Float
  | .bool b => some (if b then 1.0 else 0.0)
  | .int i => some (Float.ofInt i)
  | .uint n => some n.toFloat
  | .float f => some f
  | _ => none

/-- The order of map keys of any kind. -/
def keyLess (a b : Value) : Bool :=
  match keyNumber a, keyNumber b with
  | some x, some y =>
    if x != y then x < y
    else if keyKind a ≠ keyKind b then keyKind a < keyKind b
    else match a, b with
      | .int i, .int j => i < j
      | .uint i, .uint j => i < j
      | .float x, .float y => x < y
      | .bool x, .bool y => !x && y
      | _, _ => false
  | _, _ =>
    match a, b with
    | .str x, .str y => naturalLess x y
    | _, _ => keyKind a < keyKind b

/-- A plain implicit scalar event. -/
def scalarEvent (value : String) (style : ScalarStyle := .plain) : Emitted :=
  ⟨.scalar "" "" value true true style, {}⟩

/-- The event for a string, quoted as its text needs. -/
def stringEvent (s : String) (flow : Bool := false) : Emitted :=
  let plain := plainTag s = "!!str" && !(isBase60Float s || isOldBool s)
  let style :=
    if s.toList.contains '\n' then (if flow then ScalarStyle.doubleQuoted else .literal)
    else if plain then .plain
    else .doubleQuoted
  scalarEvent s style

/-- The text of a float as a scalar. -/
def floatText (f : Float) : String :=
  match Decimal.gText f with
  | "+Inf" => ".inf"
  | "-Inf" => "-.inf"
  | "NaN" => ".nan"
  | t => t


/-- The events of a value in block style, maps in key order. -/
def valueEvents : Nat → Value → List Emitted
  | 0, _ => []
  | fuel + 1, v =>
    match v with
    | .null => [scalarEvent "null"]
    | .bool b => [scalarEvent (if b then "true" else "false")]
    | .int i => [scalarEvent (toString i)]
    | .uint n => [scalarEvent (toString n)]
    | .float f => [scalarEvent (floatText f)]
    | .str s => [stringEvent s]
    | .time t => [scalarEvent t.rfc3339]
    | .list xs =>
      [⟨.sequenceStart "" "" true false, {}⟩] ++ (xs.map (valueEvents fuel)).flatten ++
        [⟨.sequenceEnd, {}⟩]
    | .dict kvs =>
      let sorted := kvs.mergeSort fun a b => naturalLess a.1 b.1
      [⟨.mappingStart "" "" true false, {}⟩] ++
        (sorted.map fun (k, x) => stringEvent k :: valueEvents fuel x).flatten ++
        [⟨.mappingEnd, {}⟩]
    | .table kvs =>
      let sorted := kvs.mergeSort fun a b => keyLess a.1 b.1
      [⟨.mappingStart "" "" true false, {}⟩] ++
        (sorted.map fun (k, x) => valueEvents fuel k ++ valueEvents fuel x).flatten ++
        [⟨.mappingEnd, {}⟩]

/-- The events of a value. -/
def eventsOf (v : Value) : List Emitted := valueEvents (v.weight + 1) v

/-- The text of a document holding the given node events. -/
def documentText (events : List Emitted) : String :=
  emitDocument ([⟨.documentStart, {}⟩] ++ events ++ [⟨.documentEnd, {}⟩])

end PassPlan.Yaml
