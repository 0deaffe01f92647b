import PassPlan.Sql.Scope
import PassPlan.Sql.Function
/-!
The operators on values. A comparison first brings both sides to the affinity the two operands
call for: numeric when either side is a numeric column, text when one side is a text column and
the other has none; null on either side makes the answer null. Arithmetic reads text as a
number and stays with integers while the result fits in 64 bits, else computes with reals; a
division by zero is null, as is a real result that is not a number. Aggregates fold the values
of a group: sums stay exact over integers and fail on overflow, sums of reals carry a
compensation term.
-/
namespace PassPlan.Sql

/-- A truth value as a value. -/
def ofTruth : Option Bool → Value
  | none => .null
  | some b => .int (if b then 1 else 0)

/-- The affinity a comparison applies to both sides, from the affinities of the two operands:
when both have one, numeric if either is numeric and none otherwise; else the one there is. -/
def comparisonAffinity : Option Affinity → Option Affinity → Option Affinity
  | some x, some y => if x.isNumeric || y.isNumeric then some .numeric else some .blob
  | none, y => y
  | x, none => x

/-- Whether a value is text. -/
def Value.isText : Value → Bool
  | .text _ => true
  | _ => false

/-- A number as its text; other values as they are. -/
def Value.stringified : Value → Value
  | .int i => .text (toString i)
  | .real f => .text (realText f)
  | v => v

/-- Both sides of a comparison once its affinity is applied. -/
def prepareCompare (aff : Option Affinity) (a b : Value) : Value × Value :=
  match aff with
  | some .numeric | some .integer | some .real => (a.forNumericCompare, b.forNumericCompare)
  | some .text => if a.isText || b.isText then (a.stringified, b.stringified) else (a, b)
  | _ => (a, b)

/-- The order of two values under a comparison's affinity and collation; none when either is
null. -/
def compareValues (aff : Option Affinity) (coll : Collation) (a b : Value) : Option Ordering :=
  if a.isNull || b.isNull then none
  else
    let (x, y) := prepareCompare aff a b
    some (x.compareWith coll y)

/-- Whether a comparison operator holds for an order. -/
def BinOp.holds (op : BinOp) (o : Ordering) : Bool :=
  match op with
  | .eq | .is => o = .eq
  | .ne | .isNot => o ≠ .eq
  | .lt => o = .lt
  | .le => o ≠ .gt
  | .gt => o = .gt
  | .ge => o ≠ .lt
  | _ => false

/-- Whether an operator compares. -/
def BinOp.compares : BinOp → Bool
  | .eq | .ne | .lt | .le | .gt | .ge | .is | .isNot => true
  | _ => false

/-- Whether an integer fits in 64 bits. -/
def fitsInt (i : Int) : Bool := minInt ≤ i && i ≤ maxInt

/-- A real result, which is null when it is not a number. -/
def realResult (f : Float) : Value := if f.isNaN then .null else .real f

/-- Arithmetic on two values read as numbers. -/
def arith (op : BinOp) (a b : Value) : Value :=
  if a.isNull || b.isNull then .null
  else
    let x := a.numerify
    let y := b.numerify
    let viaReal : Value :=
      let rx := x.toReal
      let ry := y.toReal
      match op with
      | .add => realResult (rx + ry)
      | .sub => realResult (rx - ry)
      | .mul => realResult (rx * ry)
      | .div => if ry == 0 then .null else realResult (rx / ry)
      | _ =>
        let ix := x.toInt
        let iy := y.toInt
        if iy = 0 then .null else realResult (Float.ofInt (ix.tmod (if iy = -1 then 1 else iy)))
    match x, y with
    | .int i, .int j =>
      match op with
      | .add => if fitsInt (i + j) then .int (i + j) else viaReal
      | .sub => if fitsInt (i - j) then .int (i - j) else viaReal
      | .mul => if fitsInt (i * j) then .int (i * j) else viaReal
      | .div =>
        if j = 0 then .null else if j = -1 && i = minInt then viaReal else .int (i.tdiv j)
      | _ => if j = 0 then .null else .int (i.tmod (if j = -1 then 1 else j))
    | _, _ => viaReal

/-- The 64 bits of an integer as a natural number. -/
def bitsOf (i : Int) : Nat := (i % (Nat.pow 2 64 : Int)).toNat

/-- Bitwise and, or and shifts on two values read as integers. -/
def bitwise (op : BinOp) (a b : Value) : Value :=
  if a.isNull || b.isNull then .null
  else
    let x := a.toInt
    let y := b.toInt
    let shift (left : Bool) (k : Int) : Int :=
      if k ≥ 64 then (if x ≥ 0 || left then 0 else -1)
      else if left then wrapInt ((bitsOf x * Nat.pow 2 k.toNat : Nat) : Int)
      else Int.fdiv x (Nat.pow 2 k.toNat : Int)
    match op with
    | .bitAnd => .int (wrapInt (Nat.land (bitsOf x) (bitsOf y)))
    | .bitOr => .int (wrapInt (Nat.lor (bitsOf x) (bitsOf y)))
    | .shl => .int (if y < 0 then shift false (if y > -64 then -y else 64) else shift true y)
    | _ => .int (if y < 0 then shift true (if y > -64 then -y else 64) else shift false y)

/-- The bitwise complement of a value read as an integer. -/
def complement (v : Value) : Value := if v.isNull then .null else .int (-v.toInt - 1)

/-- Two values joined as text. -/
def concatValues (a b : Value) : Value :=
  if a.isNull || b.isNull then .null else .text (a.toText ++ b.toText)

/-- Whether a pattern matches a value for `LIKE` or `GLOB`, with an optional escape: null when
an operand is null, false when one is a blob. -/
def patternValue (glob : Bool) (pattern text : Value) (escape : Option Value) :
    Except String Value :=
  match pattern, text with
  | .blob _, _ | _, .blob _ => .ok (.int 0)
  | _, _ =>
    match escape with
    | some .null => .ok .null
    | some e =>
      match e.toText.toList with
      | [c] =>
        if pattern.isNull || text.isNull then .ok .null
        else .ok (.int (if likeMatch pattern.toText text.toText (some c) then 1 else 0))
      | _ => .error "ESCAPE expression must be a single character"
    | none =>
      if pattern.isNull || text.isNull then .ok .null
      else if glob then .ok (.int (if globMatch pattern.toText text.toText then 1 else 0))
      else .ok (.int (if likeMatch pattern.toText text.toText none then 1 else 0))

/-- The running sum of a group: the count of values, the exact integer sum until it overflows
or a non-integer arrives, then a real sum with its compensation. -/
structure SumState where
  count : Nat := 0
  exact : Int := 0
  approx : Bool := false
  overflow : Bool := false
  sum : Float := 0
  err : Float := 0

namespace SumState

/-- Adds a real with compensation. -/
def addReal (s : SumState) (r : Float) : SumState :=
  let t := s.sum + r
  let e := if s.sum.abs > r.abs then (s.sum - t) + r else (r - t) + s.sum
  { s with sum := t, err := s.err + e }

/-- Whether an integer is too large to become a real exactly. -/
def isBig (i : Int) : Bool := i ≤ -4503599627370496 || i ≥ 4503599627370496

/-- Adds an integer, in two parts when it is large. -/
def addInt (s : SumState) (i : Int) : SumState :=
  if isBig i then
    let small := i.tmod 16384
    (s.addReal (Float.ofInt (i - small))).addReal (Float.ofInt small)
  else s.addReal (Float.ofInt i)

/-- Switches to a real sum that starts from the exact sum. -/
def start (s : SumState) : SumState :=
  if isBig s.exact then
    let small := s.exact.tmod 16384
    { s with approx := true, sum := Float.ofInt (s.exact - small), err := Float.ofInt small }
  else { s with approx := true, sum := Float.ofInt s.exact, err := 0 }

/-- Adds a value; nulls are skipped and text counts as the number it reads as. -/
def add (s : SumState) (v : Value) : SumState :=
  let v := match v with
    | .text t => Value.ofNumericText false t
    | v => v
  match v with
  | .null => s
  | v =>
    let s := { s with count := s.count + 1 }
    if !s.approx then
      match v with
      | .int i =>
        if fitsInt (s.exact + i) then { s with exact := s.exact + i }
        else { s.start.addInt i with overflow := true }
      | v => s.start.addReal v.toReal
    else
      match v with
      | .int i => s.addInt i
      | v => { s.addReal v.toReal with overflow := false }

/-- The real value of a sum. -/
def real (s : SumState) : Float :=
  if s.approx then (if s.err.isNaN || s.err.isInf then s.sum else s.sum + s.err)
  else Float.ofInt s.exact

end SumState

/-- The value of an aggregate over the argument lists of a group's rows. -/
def foldAggregate (name : String) (coll : Collation) (rows : List (List Value)) :
    Except String Value :=
  let firsts := rows.map fun r => r.headD .null
  let sums := firsts.foldl SumState.add {}
  match asciiLower name with
  | "count" => .ok (.int (if rows.all (·.isEmpty) then rows.length else (firsts.filter (!·.isNull)).length))
  | "sum" =>
    if sums.count = 0 then .ok .null
    else if sums.approx then
      if sums.overflow then .error "integer overflow" else .ok (.real sums.real)
    else .ok (.int sums.exact)
  | "total" => .ok (.real (if sums.count = 0 then 0 else sums.real))
  | "avg" => .ok (if sums.count = 0 then .null else .real (sums.real / Float.ofNat sums.count))
  | "min" => .ok (best (fun o => o = .gt) firsts)
  | "max" => .ok (best (fun o => o = .lt) firsts)
  | "group_concat" | "string_agg" =>
    let parts := rows.filterMap fun r => match r with
      | v :: rest => if v.isNull then none else some (v.toText, (rest.head?.map Value.toText).getD ",")
      | [] => none
    match parts with
    | [] => .ok .null
    | (first, _) :: more => .ok (.text (more.foldl (fun acc (t, sep) => acc ++ sep ++ t) first))
  | "json_group_array" => do
    let items ← firsts.mapM fun v => jsonArgText v false
    pure (.text ("[" ++ ",".intercalate items ++ "]"))
  | "json_group_object" => do
    let members ← rows.filterMapM fun r => match r with
      | .text k :: v :: _ => (some ∘ (jsonQuote k ++ ":" ++ ·)) <$> jsonArgText v false
      | .null :: _ => pure none
      | k :: v :: _ => (some ∘ (jsonQuote k.toText ++ ":" ++ ·)) <$> jsonArgText v false
      | _ => pure none
    pure (.text ("\x7b" ++ ",".intercalate members ++ "\x7d"))
  | _ => .ok .null
where
  /-- The first non-null value that no later one beats. -/
  best (beaten : Ordering → Bool) (vs : List Value) : Value :=
    vs.foldl (fun acc v =>
      if v.isNull then acc
      else if acc.isNull then v
      else if beaten (acc.compareWith coll v) then v else acc) .null

/-- The order of a term of an ordering: descending or not, where nulls go if said, and the
collation. -/
structure SortSpec where
  descending : Bool := false
  nullsFirst : Option Bool := none
  collation : Collation := .binary
deriving Inhabited

/-- Compares two rows of sort keys term by term. -/
def compareKeys : List SortSpec → List Value → List Value → Ordering
  | s :: specs, a :: as, b :: bs =>
    let first := s.nullsFirst.getD !s.descending
    let o : Ordering :=
      match a.isNull, b.isNull with
      | true, true => .eq
      | true, false => if first then .lt else .gt
      | false, true => if first then .gt else .lt
      | false, false =>
        let o := a.compareWith s.collation b
        if s.descending then o.swap else o
    if o = .eq then compareKeys specs as bs else o
  | _, _, _ => .eq

/-- Whether two rows hold equal values, nulls equal to each other. -/
def sameRow (a b : List Value) : Bool :=
  a.length = b.length && (a.zip b).all fun (x, y) => x.compare y = .eq

/-- The rows without those equal to an earlier one. -/
def distinctRows {α : Type} (key : α → List Value) (rows : List α) : List α :=
  (rows.foldl (fun acc r => if acc.any (fun s => sameRow (key s) (key r)) then acc else r :: acc) []).reverse

/-- Rows sorted by all their values, without repeats, as a set of rows is listed. -/
def sortedSet (rows : List (List Value)) : List (List Value) :=
  let specs := (rows.headD []).map fun _ => ({} : SortSpec)
  distinctRows id (rows.mergeSort fun a b => compareKeys specs a b ≠ .gt)

/-- The English ordinal of a number, as messages count terms. -/
def ordinal (n : Nat) : String :=
  let suffix := if n % 100 ≥ 11 && n % 100 ≤ 13 then "th"
    else match n % 10 with
      | 1 => "st"
      | 2 => "nd"
      | 3 => "rd"
      | _ => "th"
  toString n ++ suffix

end PassPlan.Sql
