import PassPlan.Sql.Json
/-!
Paths into JSON values and the functions that read and edit through them.

A path starts with `$` for the whole value; each step after it is `.label`, `."label"`, `[n]`,
`[#]` (one past the last item) or `[#-n]` (counted from the end). A label without quotes runs
to the next `.` or `[`, and an empty one is malformed; a quoted label runs to the next double
quote. A step is read only when the walk reaches it: a label step on a value that is no object,
or an index step on one that is no array, finds nothing without reading further.

Edits replace, insert or remove what a path finds. Inserting creates what the rest of the
path names when a label is missing from an object or the index is one past the end of an
array: an object for a label step, an array for an index step. A value that arrives from
another JSON function is JSON; other text is a JSON string.
-/
namespace PassPlan.Sql

/-- The characters of a string body with its escapes resolved. An escaped surrogate pair is
one character; a lone surrogate becomes three replacement characters, one for each byte of
its encoding. -/
def jsonUnescape (body : String) : String :=
  let rec go : Nat → List Char → List Char → List Char
    | 0, _, acc => acc.reverse
    | _, [], acc => acc.reverse
    | fuel + 1, '\\' :: d :: rest, acc =>
      match d with
      | 'b' => go fuel rest ('\x08' :: acc)
      | 'f' => go fuel rest ('\x0c' :: acc)
      | 'n' => go fuel rest ('\n' :: acc)
      | 'r' => go fuel rest ('\r' :: acc)
      | 't' => go fuel rest ('\t' :: acc)
      | 'u' =>
        let hi := hexOf (rest.take 4)
        let more := rest.drop 4
        if 0xD800 ≤ hi && hi < 0xDC00 then
          match more with
          | '\\' :: 'u' :: tail =>
            let lo := hexOf (tail.take 4)
            if 0xDC00 ≤ lo && lo < 0xE000 then
              go fuel (tail.drop 4) (Char.ofNat (0x10000 + (hi - 0xD800) * 0x400 + (lo - 0xDC00)) :: acc)
            else go fuel more (replacement ++ acc)
          | _ => go fuel more (replacement ++ acc)
        else if 0xDC00 ≤ hi && hi < 0xE000 then go fuel more (replacement ++ acc)
        else go fuel more (Char.ofNat hi :: acc)
      | c => go fuel rest (c :: acc)
    | fuel + 1, c :: rest, acc => go fuel rest (c :: acc)
  String.ofList (go (body.length + 1) body.toList [])
where
  /-- The value of hexadecimal digits. -/
  hexOf (cs : List Char) : Nat := cs.foldl (fun n c => n * 16 + hexValue c) 0
  /-- What a lone surrogate becomes. -/
  replacement : List Char := ['\uFFFD', '\uFFFD', '\uFFFD']

/-- The body of a JSON string holding a text. -/
def jsonEscapeBody (s : String) : String :=
  let q := jsonQuote s
  String.ofList ((q.toList.drop 1).dropLast)

/-- Whether a number's text is an integer: no point and no exponent. -/
def isIntegerText (t : String) : Bool := !t.toList.any fun c => c = '.' || c = 'e' || c = 'E'

/-- The type name of a JSON value. -/
def JsonNode.typeName : JsonNode → String
  | .null => "null"
  | .bool true => "true"
  | .bool false => "false"
  | .number t => if isIntegerText t then "integer" else "real"
  | .string _ => "text"
  | .array _ => "array"
  | .object _ => "object"

/-- A JSON value as a database value: null, one or zero for the truth values, an integer when
the number is one that fits, otherwise a real, the text of a string, and the minified text of
an array or object. -/
def JsonNode.sqlValue : JsonNode → Value
  | .null => .null
  | .bool b => .int (if b then 1 else 0)
  | .number t =>
    if isIntegerText t then
      let r := readInt t
      if r.fit = .exact then .int r.value else .real (readReal t).value
    else .real (readReal t).value
  | .string body => .text (jsonUnescape body)
  | j => .text j.render

/-- Where a walk along a path ends: at a result, at nothing, or at a malformed step. -/
inductive Reached (α : Type) where
  | found (a : α)
  | missing
  | badPath

/-- A label step after its point: the label, whether it was quoted with an escape in it, and
the rest of the path; none when it is malformed. -/
def readLabel (cs : List Char) : Option (String × Bool × List Char) :=
  match cs with
  | '"' :: rest =>
    let label := rest.takeWhile (· ≠ '"')
    match rest.drop label.length with
    | '"' :: after => some (String.ofList label, label.contains '\\', after)
    | _ => none
  | _ =>
    let label := cs.takeWhile fun c => c ≠ '.' && c ≠ '['
    if label.isEmpty then none else some (String.ofList label, false, cs.drop label.length)

/-- Whether a member's key is a path's label: both compared with their escapes resolved, the
label only when it was quoted with an escape in it. -/
def labelMatches (key label : String) (escaped : Bool) : Bool :=
  jsonUnescape key = (if escaped then jsonUnescape label else label)

/-- The key a new member gets for a path's label. -/
def labelKey (label : String) (escaped : Bool) : String :=
  if escaped then label else jsonEscapeBody label

/-- Decimal digits as a 32-bit count, with the characters after them. -/
def readIndexDigits (cs : List Char) : Nat × List Char :=
  let ds := cs.takeWhile Char.isDigit
  (ds.foldl (fun n c => (n * 10 + (c.toNat - '0'.toNat)) % 4294967296) 0, cs.drop ds.length)

/-- An index step after its bracket, in an array of `count` items: the position and the rest of
the path, `missing` when it counts back past the start, `badPath` when it is malformed. -/
def readIndex (cs : List Char) (count : Nat) : Reached (Nat × List Char) :=
  match cs with
  | '#' :: rest =>
    let (k, rest) : Option Nat × List Char := match rest with
      | '-' :: d :: more =>
        if d.isDigit then
          let (nn, after) := readIndexDigits (d :: more)
          (if nn > count then none else some (count - nn), after)
        else (some count, rest)
      | _ => (some count, rest)
    match k, rest with
    | none, _ => .missing
    | some k, ']' :: after => .found (k, after)
    | some _, _ => .badPath
  | c :: _ =>
    if c.isDigit then
      match readIndexDigits cs with
      | (k, ']' :: after) => .found (k, after)
      | _ => .badPath
    else .badPath
  | [] => .badPath

/-- The value a path leads to from a value, the path taken after its `$`. -/
def JsonNode.lookup : Nat → JsonNode → List Char → Reached JsonNode
  | 0, _, _ => .missing
  | _, node, [] => .found node
  | fuel + 1, node, '.' :: rest =>
    match readLabel rest with
    | none => .badPath
    | some (label, escaped, after) =>
      match node with
      | .object members =>
        match members.find? (fun m => labelMatches m.1 label escaped) with
        | some (_, v) => v.lookup fuel after
        | none => .missing
      | _ => .missing
  | fuel + 1, node, '[' :: rest =>
    match node with
    | .array items =>
      match readIndex rest items.length with
      | .found (k, after) =>
        match items[k]? with
        | some v => v.lookup fuel after
        | none => .missing
      | .missing => .missing
      | .badPath => .badPath
    | _ => .missing
  | _ + 1, _, _ => .badPath

/-- What an edit does at the end of its path. -/
inductive JsonEdit where
  | remove
  | replace
  | insert
  | set
deriving DecidableEq

/-- Whether an edit creates what is missing. -/
def JsonEdit.creates : JsonEdit → Bool
  | .insert | .set => true
  | _ => false

/-- Replaces the first item of a list that satisfies a test, or removes it. -/
def updateFirst {α : Type} (p : α → Bool) (f : α → Option α) : List α → List α
  | [] => []
  | a :: rest => if p a then (match f a with | some b => b :: rest | none => rest) else a :: updateFirst p f rest

/-- What the rest of a path creates around a value: the value itself at the end, an object
with one member for a label step, an array with one item for an index step that can only be
the first. -/
def JsonNode.build : Nat → JsonNode → List Char → Reached JsonNode
  | 0, _, _ => .missing
  | _, value, [] => .found value
  | fuel + 1, value, '.' :: rest =>
    match readLabel rest with
    | none => .badPath
    | some (label, escaped, after) =>
      match JsonNode.build fuel value after with
      | .found n => .found (.object [(labelKey label escaped, n)])
      | .missing => .missing
      | .badPath => .badPath
  | fuel + 1, value, '[' :: rest =>
    match readIndex rest 0 with
    | .found (0, after) =>
      match JsonNode.build fuel value after with
      | .found n => .found (.array [n])
      | .missing => .missing
      | .badPath => .badPath
    | .found _ => .missing
    | .missing => .missing
    | .badPath => .badPath
  | _ + 1, _, _ => .badPath

/-- Edits a value along a path: the value after the edit, none when the edit removes it. -/
def JsonNode.edit : Nat → JsonEdit → JsonNode → JsonNode → List Char → Reached (Option JsonNode)
  | 0, _, _, _, _ => .missing
  | _, mode, value, node, [] =>
    .found (match mode with
      | .remove => none
      | .insert => some node
      | _ => some value)
  | fuel + 1, mode, value, node, '.' :: rest =>
    match readLabel rest with
    | none => .badPath
    | some (label, escaped, after) =>
      match node with
      | .object members =>
        match members.find? (fun m => labelMatches m.1 label escaped) with
        | some (_, v) =>
          match JsonNode.edit fuel mode value v after with
          | .found r =>
            .found (some (.object (updateFirst (fun m => labelMatches m.1 label escaped)
              (fun m => r.map fun r => (m.1, r)) members)))
          | .missing => .missing
          | .badPath => .badPath
        | none =>
          if mode.creates then
            match JsonNode.build fuel value after with
            | .found n => .found (some (.object (members ++ [(labelKey label escaped, n)])))
            | .missing => .missing
            | .badPath => .badPath
          else .missing
      | _ => .missing
  | fuel + 1, mode, value, node, '[' :: rest =>
    match node with
    | .array items =>
      match readIndex rest items.length with
      | .found (k, after) =>
        match items[k]? with
        | some v =>
          match JsonNode.edit fuel mode value v after with
          | .found r =>
            .found (some (.array ((items.take k) ++ r.toList ++ items.drop (k + 1))))
          | .missing => .missing
          | .badPath => .badPath
        | none =>
          if k = items.length && mode.creates then
            match JsonNode.build fuel value after with
            | .found n => .found (some (.array (items ++ [n])))
            | .missing => .missing
            | .badPath => .badPath
          else .missing
      | .missing => .missing
      | .badPath => .badPath
    | _ => .missing
  | _ + 1, _, _, _, _ => .badPath

/-- The message for a malformed path, which quotes it. -/
def badPathMessage (path : Option String) : String :=
  "bad JSON path: " ++ match path with
    | some p => "'" ++ String.intercalate "''" (p.splitOn "'") ++ "'"
    | none => "NULL"

/-- A real written as JSON: as the database writes it, infinities as `9.0e+999`. -/
def jsonRealText (f : Float) : String :=
  if f.isInf then (if f < 0 then "-9.0e+999" else "9.0e+999") else realText f

/-- A database value as JSON text inside an array or object: text that came from a JSON
function as it is, other text as a string; a blob cannot be held. -/
def jsonArgText (v : Value) (isJson : Bool) : Except String String :=
  match v with
  | .null => .ok "null"
  | .int i => .ok (toString i)
  | .real f => .ok (jsonRealText f)
  | .text s => .ok (if isJson then s else jsonQuote s)
  | .blob _ => .error "JSON cannot hold BLOB values"

/-- A database value as a JSON value to place by an edit. -/
def jsonArgNode (v : Value) (isJson : Bool) : Except String JsonNode :=
  match v with
  | .null => .ok .null
  | .int i => .ok (.number (toString i))
  | .real f => .ok (.number (if f.isInf then (if f < 0 then "-9e999" else "9e999") else realText f))
  | .text s =>
    if isJson then
      match JsonNode.parse? s with
      | some j => .ok j
      | none => .error "malformed JSON"
    else .ok (.string (jsonEscapeBody s))
  | .blob _ => .error "JSON cannot hold BLOB values"

/-- The JSON value of a function's first argument; none for null. -/
def jsonInput (v : Value) : Except String (Option JsonNode) :=
  match v with
  | .null => .ok none
  | v => match JsonNode.parse? v.toText with
    | some j => .ok (some j)
    | none => .error "malformed JSON"

/-- The path an extraction operator's right side stands for: a path as it is, an integer as an
index (negative ones from the end), a plain word as a label, a bracketed index as it is, and
other text as a quoted label. -/
def arrowPath (v : Value) : Option String :=
  match v with
  | .null => none
  | .int i => some (if i < 0 then "$[#" ++ toString i ++ "]" else "$[" ++ toString i ++ "]")
  | v =>
    let t := v.toText
    let cs := t.toList
    if cs.head? = some '$' then some t
    else if cs.all (fun c => c.isAlphanum || c = '_') then some ("$." ++ t)
    else if cs.head? = some '[' && cs.length ≥ 3 && cs.getLast? = some ']' then some ("$" ++ t)
    else some ("$.\"" ++ t ++ "\"")

/-- The value at a path, for an extraction: the database value, or the JSON text when asked;
null when the path finds nothing. -/
def extractOne (j : JsonNode) (path : String) (asJson : Bool) : Except String Value :=
  match path.toList with
  | '$' :: rest =>
    match j.lookup (rest.length + 1) rest with
    | .found n => .ok (if asJson then .text n.render else n.sqlValue)
    | .missing => .ok .null
    | .badPath => .error (badPathMessage (some path))
  | _ => .error (badPathMessage (some path))

/-- `json_extract`: one path gives the database value it finds, several give a JSON array of
what each finds. -/
def jsonExtract (args : List Value) : Except String Value := do
  match args with
  | [] | [_] => return .null
  | doc :: paths =>
    let some j ← jsonInput doc | return .null
    match paths with
    | [p] => if p.isNull then return .null else extractOne j p.toText false
    | _ =>
      let mut items : List String := []
      for p in paths do
        if p.isNull then return .null
        let path := p.toText
        match path.toList with
        | '$' :: rest =>
          match j.lookup (rest.length + 1) rest with
          | .found n => items := items ++ [n.render]
          | .missing => items := items ++ ["null"]
          | .badPath => throw (badPathMessage (some path))
        | _ => throw (badPathMessage (some path))
      return .text ("[" ++ ",".intercalate items ++ "]")

/-- The extraction operators: the JSON text or the database value at the path the right side
stands for. -/
def jsonArrow (asJson : Bool) (doc key : Value) : Except String Value := do
  let some j ← jsonInput doc | return .null
  let some path := arrowPath key | return .null
  match path.toList with
  | '$' :: rest =>
    match j.lookup (rest.length + 1) rest with
    | .found n => return (if asJson then .text n.render else n.sqlValue)
    | .missing => return .null
    | .badPath => throw (badPathMessage (some key.toText))
  | _ => throw (badPathMessage (some key.toText))

/-- The node a type or length question is about: the whole value, or what a path finds. -/
def jsonTarget (j : JsonNode) (path : Option Value) (anyPath : Bool) : Except String (Option JsonNode) :=
  match path with
  | none => .ok (some j)
  | some .null => .ok none
  | some p =>
    let t := p.toText
    let cs := match t.toList with
      | '$' :: rest => rest
      | cs => if anyPath then ['@'] else '@' :: cs
    match j.lookup (cs.length + 1) cs with
    | .found n => .ok (some n)
    | .missing => .ok none
    | .badPath => .error (badPathMessage (some t))

/-- `json_type`: the type name of the value or of what a path finds. -/
def jsonType (args : List Value) : Except String Value := do
  match args with
  | doc :: rest =>
    let some j ← jsonInput doc | return .null
    let some n ← jsonTarget j rest.head? false | return .null
    return .text n.typeName
  | [] => return .null

/-- `json_array_length`: the number of items of an array, zero for any other value. -/
def jsonArrayLength (args : List Value) : Except String Value := do
  match args with
  | doc :: rest =>
    let some j ← jsonInput doc | return .null
    let some n ← jsonTarget j rest.head? true | return .null
    return .int (match n with
      | .array items => items.length
      | _ => 0)
  | [] => return .null

/-- `json_remove`: the value with what each path finds removed; null for a null path or the
path `$`. -/
def jsonRemove (args : List Value) : Except String Value := do
  match args with
  | [] => return .null
  | doc :: paths =>
    let some j ← jsonInput doc | return .null
    let mut cur := j
    for p in paths do
      if p.isNull then return .null
      let path := p.toText
      match path.toList with
      | ['$'] => return .null
      | '$' :: rest =>
        match JsonNode.edit (rest.length + 1) .remove .null cur rest with
        | .found (some n) => cur := n
        | .found none => return .null
        | .missing => pure ()
        | .badPath => throw (badPathMessage (some path))
      | _ => throw (badPathMessage (some path))
    return .text cur.render

/-- `json_set`, `json_insert` and `json_replace`: the value with each path's value placed;
a null path is skipped. -/
def jsonPlace (name : String) (mode : JsonEdit) (args : List Value) (json : List Bool) :
    Except String Value := do
  if args.length % 2 = 0 then throw (name ++ "() needs an odd number of arguments")
  match args with
  | [] => return .null
  | doc :: rest =>
    let some j ← jsonInput doc | return .null
    let flags := json.drop 1
    let mut cur := j
    let mut i := 0
    for (p, v) in pairs rest do
      let isJson := flags.getD (2 * i + 1) false
      i := i + 1
      if p.isNull then continue
      let path := p.toText
      match path.toList with
      | '$' :: rest =>
        let value ← jsonArgNode v isJson
        if rest.isEmpty then
          if mode = .replace || mode = .set then cur := value
        else
          match JsonNode.edit (rest.length + 1) mode value cur rest with
          | .found (some n) => cur := n
          | .found none => pure ()
          | .missing => pure ()
          | .badPath => throw (badPathMessage (some path))
      | _ => throw (badPathMessage (some path))
    return .text cur.render
where
  /-- Paths and values two by two. -/
  pairs : List Value → List (Value × Value)
    | p :: v :: more => (p, v) :: pairs more
    | _ => []

end PassPlan.Sql
