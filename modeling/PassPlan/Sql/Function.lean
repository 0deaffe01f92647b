import PassPlan.Sql.JsonPath
import PassPlan.Sql.Printf
/-!
The functions expressions call: which names exist, how many arguments each takes, which ones
aggregate rows or need a window, and the values of the scalar ones. A name is found in any
case; a call with a count of arguments its function does not take is refused, as is a name no
function has. A scalar function that fails reports its message as a logic error.
-/
namespace PassPlan.Sql

/-- How many arguments a function takes. -/
inductive Arity where
  | exactly (counts : List Nat)
  | atLeast (n : Nat)
deriving Repr, Inhabited

/-- Whether an arity allows a count. -/
def Arity.allows : Arity → Nat → Bool
  | .exactly ns, n => ns.contains n
  | .atLeast m, n => n ≥ m

/-- How a function runs: on each row's values, over a group of rows, or only with a window. -/
inductive FunctionKind where
  | scalar | aggregate | window
deriving DecidableEq, Repr, Inhabited

/-- The functions there are, by lower-case name, with their kind and arity. A name may have a
scalar and an aggregate form that differ in arity. -/
def functionCatalog : List (String × FunctionKind × Arity) :=
  let one := Arity.exactly [1]
  let s (n : String) (a : Arity) := (n, FunctionKind.scalar, a)
  [s "abs" one, s "changes" (.exactly [0]), s "char" (.atLeast 0), s "coalesce" (.atLeast 2),
    s "concat" (.atLeast 1), s "concat_ws" (.atLeast 2), s "format" (.atLeast 1),
    s "printf" (.atLeast 1), s "glob" (.exactly [2]), s "hex" one, s "ifnull" (.exactly [2]),
    s "iif" (.atLeast 2), s "if" (.atLeast 2), s "instr" (.exactly [2]),
    s "last_insert_rowid" (.exactly [0]), s "length" one, s "like" (.exactly [2, 3]),
    s "likelihood" (.exactly [2]), s "likely" one, s "unlikely" one,
    s "load_extension" (.exactly [1, 2]), s "lower" one, s "upper" one,
    s "ltrim" (.exactly [1, 2]), s "rtrim" (.exactly [1, 2]), s "trim" (.exactly [1, 2]),
    s "max" (.atLeast 2), s "min" (.atLeast 2), s "nullif" (.exactly [2]), s "octet_length" one,
    s "quote" one, s "random" (.exactly [0]), s "randomblob" one, s "replace" (.exactly [3]),
    s "round" (.exactly [1, 2]), s "sign" one, s "soundex" one,
    s "sqlite_compileoption_get" one, s "sqlite_compileoption_used" one, s "sqlite_offset" one,
    s "sqlite_source_id" (.exactly [0]), s "sqlite_version" (.exactly [0]),
    s "substr" (.exactly [2, 3]), s "substring" (.exactly [2, 3]),
    s "total_changes" (.exactly [0]), s "typeof" one, s "unhex" (.exactly [1, 2]),
    s "unicode" one, s "unistr" one, s "zeroblob" one,
    s "date" (.atLeast 0), s "time" (.atLeast 0), s "datetime" (.atLeast 0),
    s "julianday" (.atLeast 0), s "unixepoch" (.atLeast 0), s "strftime" (.atLeast 1),
    s "timediff" (.exactly [2]), s "current_date" (.exactly [0]),
    s "current_time" (.exactly [0]), s "current_timestamp" (.exactly [0]),
    s "acos" one, s "acosh" one, s "asin" one, s "asinh" one, s "atan" one, s "atanh" one,
    s "atan2" (.exactly [2]), s "ceil" one, s "ceiling" one, s "cos" one, s "cosh" one,
    s "degrees" one, s "exp" one, s "floor" one, s "ln" one, s "log" (.exactly [1, 2]),
    s "log10" one, s "log2" one, s "mod" (.exactly [2]), s "pi" (.exactly [0]),
    s "pow" (.exactly [2]), s "power" (.exactly [2]), s "radians" one, s "sin" one,
    s "sinh" one, s "sqrt" one, s "tan" one, s "tanh" one, s "trunc" one,
    s "json" one, s "jsonb" one, s "json_array" (.atLeast 0), s "jsonb_array" (.atLeast 0),
    s "json_array_length" (.exactly [1, 2]), s "json_error_position" one,
    s "json_extract" (.atLeast 0), s "jsonb_extract" (.atLeast 0),
    s "json_insert" (.atLeast 0), s "jsonb_insert" (.atLeast 0),
    s "json_object" (.atLeast 0), s "jsonb_object" (.atLeast 0),
    s "json_patch" (.exactly [2]), s "jsonb_patch" (.exactly [2]),
    s "json_pretty" (.exactly [1, 2]), s "json_quote" one, s "json_remove" (.atLeast 0),
    s "jsonb_remove" (.atLeast 0), s "json_replace" (.atLeast 0), s "jsonb_replace" (.atLeast 0),
    s "json_set" (.atLeast 0), s "jsonb_set" (.atLeast 0), s "json_type" (.exactly [1, 2]),
    s "json_valid" (.exactly [1, 2]),
    ("avg", .aggregate, one), ("count", .aggregate, .exactly [0, 1]),
    ("group_concat", .aggregate, .exactly [1, 2]), ("string_agg", .aggregate, .exactly [2]),
    ("max", .aggregate, one), ("min", .aggregate, one), ("sum", .aggregate, one),
    ("total", .aggregate, one), ("json_group_array", .aggregate, one),
    ("jsonb_group_array", .aggregate, one), ("json_group_object", .aggregate, .exactly [2]),
    ("jsonb_group_object", .aggregate, .exactly [2]),
    ("row_number", .window, .exactly [0]), ("rank", .window, .exactly [0]),
    ("dense_rank", .window, .exactly [0]), ("percent_rank", .window, .exactly [0]),
    ("cume_dist", .window, .exactly [0]), ("ntile", .window, one),
    ("lag", .window, .exactly [1, 2, 3]), ("lead", .window, .exactly [1, 2, 3]),
    ("first_value", .window, one), ("last_value", .window, one),
    ("nth_value", .window, .exactly [2])]

/-- What a call of a name with a count of arguments is: the kind of function it calls, or why
there is none. -/
def resolveCall (name : String) (count : Nat) : Except String FunctionKind :=
  let forms := functionCatalog.filter (·.1 = asciiLower name)
  if forms.isEmpty then .error ("no such function: " ++ name)
  else match forms.find? (·.2.2.allows count) with
    | some (_, k, _) => .ok k
    | none => .error ("wrong number of arguments to function " ++ name ++ "()")

/-- Whether a call of a name with a count of arguments aggregates rows. -/
def isAggregateCall (name : String) (count : Nat) : Bool :=
  match resolveCall name count with
  | .ok .aggregate => true
  | _ => false

/-- The characters of a value's text. -/
def textChars (v : Value) : List Char := v.toText.toList

/-- Text with the characters of a set trimmed from its start. -/
def trimStart (set : List Char) (cs : List Char) : List Char := cs.dropWhile (set.contains ·)

/-- The hexadecimal text of some bytes, in upper case. -/
def hexUpper (bs : List Nat) : String :=
  String.ofList (bs.flatMap fun b => [(hexDigitChar (b / 16)).toUpper, (hexDigitChar (b % 16)).toUpper])

/-- A value written as a literal of the dialect. -/
def quoteValue (v : Value) : String :=
  match v with
  | .null => "NULL"
  | .int i => toString i
  | .real f => realText f
  | .text s => "'" ++ String.intercalate "''" (s.splitOn "'") ++ "'"
  | .blob bs => "X'" ++ hexUpper bs ++ "'"

/-- The part of a list a substring takes: from a position counted from one, or from the end
when negative, for a length, taken backwards when negative; without a length, to the end. -/
def substrRange {α : Type} (xs : List α) (start : Int) (len : Option Int) : List α :=
  let n : Int := xs.length
  let (p2, backwards) : Int × Bool := match len with
    | some l => if l < 0 then (-l, true) else (l, false)
    | none => (n + 1, false)
  let (p1, p2) : Int × Int :=
    if start < 0 then
      let p1 := start + n
      if p1 < 0 then (0, p2 + p1) else (p1, p2)
    else if start > 0 then (start - 1, p2)
    else if p2 > 0 then (start, p2 - 1)
    else (start, p2)
  let (p1, p2) := if backwards then
      let p1 := p1 - p2
      if p1 < 0 then (0, p2 + p1) else (p1, p2)
    else (p1, p2)
  (xs.drop p1.toNat).take p2.toNat

/-- Rounds a real to a number of places after the point, halves away from zero. Magnitudes
from `2^52` on have no fraction and stay; with no places the sum with a half is cut toward
zero, otherwise the exact value is rounded in decimal and read back. -/
def roundReal (r : Float) (places : Nat) : Float :=
  if r < -4503599627370496.0 || r > 4503599627370496.0 || r.isNaN then r
  else if places = 0 then Float.ofInt (realToInt (if r < 0 then r - 0.5 else r + 0.5))
  else
    let (neg, e, frac) := Decimal.fields r
    if e = 0 && frac = 0 then 0.0
    else
      let x := Decimal.Binary.ofFields e frac
      let q := (Decimal.floorDiv (2 * x.mant) x.exp (-(places : Int)) + 1) / 2
      let m := if q = 0 then 0.0 else Decimal.ofDecimal q (-(places : Int))
      if neg && q ≠ 0 then -m else m

/-- The outcome of matching a pattern: a match, no match here, or no match anywhere further
on, which ends the search for a wildcard. -/
inductive PatternResult where
  | hit | miss | stop
deriving DecidableEq, Repr

/-- The wildcards of a pattern language: one character, any run, whether case is ignored for
ASCII letters, and whether brackets make sets. -/
structure PatternRules where
  one : Char
  all : Char
  noCase : Bool
  sets : Bool

/-- LIKE: `_` and `%`, ignoring case. -/
def likeRules : PatternRules := ⟨'_', '%', true, false⟩

/-- GLOB: `?` and `*` and sets in brackets, minding case. -/
def globRules : PatternRules := ⟨'?', '*', false, true⟩

/-- Lower case for an ASCII letter. -/
def lowerChar (c : Char) : Char := if 'A' ≤ c && c ≤ 'Z' then Char.ofNat (c.toNat + 32) else c

/-- Whether a character is in a bracket set; the set's text after its opening bracket, and the
pattern after its closing bracket, or none when the set is never closed. -/
def inSet (c : Char) (ps : List Char) : Option (Bool × List Char) :=
  let (invert, ps) := match ps with
    | '^' :: rest => (true, rest)
    | rest => (false, rest)
  let (seen, ps) := match ps with
    | ']' :: rest => (decide (c = ']'), rest)
    | rest => (false, rest)
  let rec go : Nat → List Char → Bool → Option Char → Option (Bool × List Char)
    | 0, _, _, _ => none
    | _ + 1, [], _, _ => none
    | fuel + 1, d :: rest, seen, prior =>
      if d = ']' then some (seen != invert, rest)
      else if d = '-' && prior.isSome && (match rest with | e :: _ => e ≠ ']' | [] => false) then
        match rest, prior with
        | e :: more, some p => go fuel more (seen || (p ≤ c && c ≤ e)) none
        | _, _ => none
      else go fuel rest (seen || c = d) (some d)
  go (ps.length + 1) ps seen none

/-- Matches text against a pattern; `other` is the escape character of LIKE or the bracket of
GLOB. -/
def patternCompare (r : PatternRules) (other : Option Char) : Nat → List Char → List Char → Bool → PatternResult
  | 0, _, _, _ => .miss
  | _ + 1, [], s, _ => if s.isEmpty then .hit else .miss
  | fuel + 1, c :: ps, s, escaped =>
    if c = r.all && !escaped then
      match skipWild ps s with
      | none => .stop
      | some ([], _) => .hit
      | some (c :: ps, s) =>
        if other = some c && r.sets then
          tryEach fuel (c :: ps) s
        else
          let next : Option (Char × List Char) :=
            if other = some c then (match ps with | d :: more => some (d, more) | [] => none)
            else some (c, ps)
          match next with
          | none => .stop
          | some (c, ps) => search fuel c ps s
    else if other = some c && !escaped then
      if r.sets then
        match s with
        | [] => .miss
        | d :: rest =>
          match inSet d ps with
          | some (true, ps) => patternCompare r other fuel ps rest false
          | _ => .miss
      else
        match ps with
        | [] => .miss
        | d :: more => patternCompare r other fuel (d :: more) s true
    else
      match s with
      | [] => .miss
      | d :: rest =>
        if c = d || (r.noCase && lowerChar c = lowerChar d && c.toNat < 0x80 && d.toNat < 0x80) ||
            (c = r.one && !escaped) then
          patternCompare r other fuel ps rest false
        else .miss
where
  /-- Skips wildcards after a run wildcard, each one-character wildcard taking a character;
  none when the text runs out. -/
  skipWild : List Char → List Char → Option (List Char × List Char)
    | c :: ps, s =>
      if c = r.all then skipWild ps s
      else if c = r.one then
        match s with
        | _ :: rest => skipWild ps rest
        | [] => none
      else some (c :: ps, s)
    | [], s => some ([], s)
  /-- Tries a bracket set at each position of the text. -/
  tryEach (fuel : Nat) (ps : List Char) : List Char → PatternResult
    | [] => .stop
    | s@(_ :: rest) =>
      match patternCompare r other fuel ps s false with
      | .miss => tryEach fuel ps rest
      | res => res
  /-- Searches the text for a character and matches the rest of the pattern after each place
  it occurs. -/
  search (fuel : Nat) (c : Char) (ps : List Char) : List Char → PatternResult
    | [] => .stop
    | d :: rest =>
      let same := c = d || (r.noCase && c.toNat < 0x80 && lowerChar c = lowerChar d)
      if same then
        match patternCompare r other fuel ps rest false with
        | .miss => search fuel c ps rest
        | res => res
      else search fuel c ps rest

/-- Whether text matches a LIKE pattern with an optional escape character. -/
def likeMatch (pattern text : String) (escape : Option Char) : Bool :=
  let p := pattern.toList
  let s := text.toList
  patternCompare likeRules escape (p.length + s.length + 2) p s false = .hit

/-- Whether text matches a GLOB pattern. -/
def globMatch (pattern text : String) : Bool :=
  let p := pattern.toList
  let s := text.toList
  patternCompare globRules (some '[') (p.length + s.length + 2) p s false = .hit

/-- The code points of a text of characters given by number: invalid ones become U+FFFD. -/
def charsOf (vs : List Value) : String :=
  String.ofList (vs.map fun v =>
    let n := v.toInt
    if n < 0 || n > 0x10FFFF || (0xD800 ≤ n && n ≤ 0xDFFF) then '\uFFFD' else Char.ofNat n.toNat)

/-- A value as a number for the numeric functions: a number, or text that reads wholly as one;
none for anything else. -/
def numberOrNull (v : Value) : Option Float :=
  match v with
  | .int i => some (Float.ofInt i)
  | .real f => some f
  | .text s => match Value.ofNumericText false s with
    | .int i => some (Float.ofInt i)
    | .real f => some f
    | _ => none
  | _ => none

/-- The value of a scalar call on evaluated arguments; the message of its failure. The name is
known to take this many arguments. -/
def callScalar (name : String) (args : List Value) (json : List Bool) : Except String Value :=
  let n := asciiLower name
  let anyNull := args.any (·.isNull)
  match n, args with
  | "abs", [v] => match v with
    | .null => .ok .null
    | .int i => if i = minInt then .error "integer overflow" else .ok (.int i.natAbs)
    | v => .ok (.real v.toReal.abs)
  | "char", vs => .ok (.text (charsOf vs))
  | "printf", f :: vs | "format", f :: vs => if f.isNull then .ok .null else (formatText f.toText vs).map .text
  | "coalesce", vs => .ok ((vs.find? (!·.isNull)).getD .null)
  | "ifnull", vs => .ok ((vs.find? (!·.isNull)).getD .null)
  | "concat", vs => .ok (.text (String.join (vs.map Value.toText)))
  | "concat_ws", sep :: vs =>
    if sep.isNull then .ok .null
    else .ok (.text (sep.toText.intercalate ((vs.filter (!·.isNull)).map Value.toText)))
  | "hex", [v] => .ok (.text (hexUpper v.toBytes))
  | "iif", vs | "if", vs => .ok (choose vs)
  | "instr", [a, b] =>
    if anyNull then .ok .null
    else match a, b with
      | .blob x, .blob y => .ok (.int (position x y))
      | _, _ => .ok (.int (position (textChars a) (textChars b)))
  | "length", [v] => match v with
    | .null => .ok .null
    | .blob bs => .ok (.int bs.length)
    | v => .ok (.int (v.toText.toList.takeWhile (· ≠ '\x00')).length)
  | "octet_length", [v] => if v.isNull then .ok .null else .ok (.int v.toBytes.length)
  | "likelihood", v :: _ => .ok v
  | "likely", [v] | "unlikely", [v] => .ok v
  | "load_extension", _ => .error "not authorized"
  | "lower", [v] => if v.isNull then .ok .null else .ok (.text (asciiLower v.toText))
  | "upper", [v] => if v.isNull then .ok .null else .ok (.text (asciiUpper v.toText))
  | "ltrim", v :: set => trimmed v set true false
  | "rtrim", v :: set => trimmed v set false true
  | "trim", v :: set => trimmed v set true true
  | "max", vs =>
    if anyNull then .ok .null
    else .ok (vs.foldl (fun acc v => if acc.compare v = .lt then v else acc) (vs.headD .null))
  | "min", vs =>
    if anyNull then .ok .null
    else .ok (vs.foldl (fun acc v => if v.compare acc = .lt then v else acc) (vs.headD .null))
  | "nullif", [a, b] => .ok (if !a.isNull && !b.isNull && a.compare b = .eq then .null else a)
  | "quote", [v] => .ok (.text (quoteValue v))
  | "random", [] => .ok (.int 0)
  | "randomblob", [v] => .ok (.blob (List.replicate (max 1 v.toInt).toNat 0))
  | "replace", [a, b, c] =>
    if anyNull then .ok .null
    else
      let pat := b.toText
      if pat.isEmpty then .ok (.text a.toText)
      else .ok (.text (c.toText.intercalate (a.toText.splitOn pat)))
  | "round", v :: rest =>
    if v.isNull || rest.any (·.isNull) then .ok .null
    else
      let places := min 30 (max 0 ((rest.headD (.int 0)).toInt)).toNat
      .ok (.real (roundReal v.toReal places))
  | "sign", [v] =>
    match numberOrNull v with
    | some x => .ok (.int (if x < 0 then -1 else if x > 0 then 1 else 0))
    | none => .ok .null
  | "sqlite_version", [] => .ok (.text "3.51.1")
  | "sqlite_source_id", [] => .ok (.text "")
  | "sqlite_compileoption_used", _ => .ok (.int 0)
  | "sqlite_compileoption_get", _ => .ok .null
  | "sqlite_offset", _ => .ok .null
  | "substr", v :: start :: len | "substring", v :: start :: len =>
    if v.isNull || start.isNull || len.any (·.isNull) then .ok .null
    else
      let l := len.head?.map Value.toInt
      match v with
      | .blob bs => .ok (.blob (substrRange bs start.toInt l))
      | v => .ok (.text (String.ofList (substrRange v.toText.toList start.toInt l)))
  | "typeof", [v] => .ok (.text v.typeName)
  | "unicode", [v] => .ok (match v.toText.toList.head? with
    | some c => if v.isNull then .null else .int c.toNat
    | none => .null)
  | "zeroblob", [v] =>
    let k := v.toInt
    if k > 1000000000 then .error "string or blob too big" else .ok (.blob (List.replicate (max 0 k).toNat 0))
  | "unhex", v :: ignore =>
    if v.isNull || ignore.any (·.isNull) then .ok .null
    else
      let skip := (ignore.head?.map textChars).getD []
      let cs := v.toText.toList.filter (!skip.contains ·)
      if cs.all isHexDigit && cs.length % 2 = 0 then .ok (.blob (hexPairs cs)) else .ok .null
  | "json", [v] => jsonOf v
  | "jsonb", [v] => jsonOf v
  | "json_valid", v :: _ => .ok (match v with
    | .null => .null
    | v => .int (if (JsonNode.parse? v.toText).isSome then 1 else 0))
  | "json_quote", [v] => .ok (.text (match v with
    | .null => "null"
    | .int i => toString i
    | .real f => realText f
    | v => jsonQuote v.toText))
  | "json_array", vs => do
    let items ← (vs.zip (flags vs.length)).mapM fun (v, j) => jsonArgText v j
    pure (.text ("[" ++ ",".intercalate items ++ "]"))
  | "json_object", vs =>
    if vs.length % 2 = 1 then .error "json_object() requires an even number of arguments"
    else do
      let members ← members (vs.zip (flags vs.length))
      pure (.text ("\x7b" ++ ",".intercalate members ++ "\x7d"))
  | "json_extract", vs => jsonExtract vs
  | "json_type", vs => jsonType vs
  | "json_array_length", vs => jsonArrayLength vs
  | "json_remove", vs => jsonRemove vs
  | "json_set", vs => jsonPlace "json_set" .set vs json
  | "json_insert", vs => jsonPlace "json_insert" .insert vs json
  | "json_replace", vs => jsonPlace "json_replace" .replace vs json
  | _, _ =>
    if ["pi"].contains n then .ok (.real 3.141592653589793)
    else if anyNull then .ok .null
    else math n args
where
  /-- The first value whose condition holds, the last argument when there is an odd one out,
  else null. -/
  choose : List Value → Value
    | c :: v :: rest => if (c.truth.getD false) then v else choose rest
    | [v] => v
    | [] => .null
  /-- The position of a needle in a haystack counted from one; zero when it is absent. -/
  position {α : Type} [BEq α] (hay needle : List α) : Int :=
    let rec go : Nat → List α → Nat → Int
      | 0, _, _ => 0
      | fuel + 1, rest, i =>
        if needle.isPrefixOf rest then i
        else match rest with
          | [] => 0
          | _ :: more => go fuel more (i + 1)
    go (hay.length + 1) hay 1
  /-- Text trimmed of a set of characters, by default the space, at its start, its end or both. -/
  trimmed (v : Value) (set : List Value) (start stop : Bool) : Except String Value :=
    if v.isNull || set.any (·.isNull) then .ok .null
    else
      let chars := (set.head?.map textChars).getD [' ']
      let cs := textChars v
      let cs := if start then trimStart chars cs else cs
      let cs := if stop then (trimStart chars cs.reverse).reverse else cs
      .ok (.text (String.ofList cs))
  /-- A value read as JSON and written minified. -/
  jsonOf (v : Value) : Except String Value :=
    match v with
    | .null => .ok .null
    | v => match JsonNode.parse? v.toText with
      | some j => .ok (.text j.render)
      | none => .error "malformed JSON"
  /-- Which arguments carry JSON, one flag for each of a count of them. -/
  flags (count : Nat) : List Bool := (List.range count).map fun i => json.getD i false
  /-- The members of a JSON object from alternating labels and values; labels must be text. -/
  members : List (Value × Bool) → Except String (List String)
    | (k, _) :: (v, j) :: rest =>
      match k with
      | .text label => do
        let value ← jsonArgText v j
        let more ← members rest
        pure ((jsonQuote label ++ ":" ++ value) :: more)
      | _ => .error "json_object() labels must be TEXT"
    | _ => .ok []
  /-- The mathematical functions, on arguments that are numbers; others give null. -/
  math (n : String) (args : List Value) : Except String Value :=
    let nums := args.map numberOrNull
    if nums.any (·.isNone) then .ok .null
    else
    let x := (nums.headD none).getD 0
    let y := (nums.getD 1 none).getD 0
    let real (f : Float) : Except String Value := .ok (if f.isNaN then .null else .real f)
    let whole (f : Float → Float) : Except String Value :=
      match (args.headD .null).numeric, args.headD .null with
      | .int i, .int _ => .ok (.int i)
      | .int i, .text s => if (readReal s).fit = .integer then .ok (.int i) else real (f x)
      | _, _ => real (f x)
    match n with
    | "acos" => real x.acos
    | "acosh" => real x.acosh
    | "asin" => real x.asin
    | "asinh" => real x.asinh
    | "atan" => real x.atan
    | "atanh" => real x.atanh
    | "atan2" => real (Float.atan2 x y)
    | "ceil" | "ceiling" => whole Float.ceil
    | "floor" => whole Float.floor
    | "trunc" => whole fun f => if f < 0 then f.ceil else f.floor
    | "cos" => real x.cos
    | "cosh" => real x.cosh
    | "degrees" => real (x * 180.0 / 3.141592653589793)
    | "radians" => real (x * 3.141592653589793 / 180.0)
    | "exp" => real x.exp
    | "ln" => if x ≤ 0 then .ok .null else real x.log
    | "log10" => if x ≤ 0 then .ok .null else real x.log10
    | "log2" => if x ≤ 0 then .ok .null else real x.log2
    | "log" =>
      if x ≤ 0 then .ok .null
      else if args.length = 2 then
        if x.log ≤ 0 || y ≤ 0 then .ok .null else real (y.log / x.log)
      else real x.log10
    | "mod" => if y == 0 then .ok .null else real (x - y * (let q := x / y; if q < 0 then q.ceil else q.floor))
    | "pow" | "power" => real (Float.pow x y)
    | "sin" => real x.sin
    | "sinh" => real x.sinh
    | "sqrt" => if x < 0 then .ok .null else real x.sqrt
    | "tan" => real x.tan
    | "tanh" => real x.tanh
    | _ => .ok .null

end PassPlan.Sql
