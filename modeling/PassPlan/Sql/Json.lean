import PassPlan.Sql.Token
/-!
JSON text as the database's JSON functions read and write it. Reading accepts standard JSON and
the JSON5 extensions: comments, more blanks, single-quoted strings with more escapes, unquoted
keys, trailing commas, hexadecimal numbers, numbers with a leading plus sign or a bare point,
and the words for infinity and not-a-number. Writing gives the minified standard form: strings
in double quotes with the extended escapes rewritten, numbers completed (`.5` becomes `0.5`,
`0x1F` becomes `31`), infinity as `9e999` and not-a-number as `null`.
-/
namespace PassPlan.Sql

/-- A JSON value, its leaves held as the text they are written with. -/
inductive JsonNode where
  | null
  | bool (b : Bool)
  /-- A number, in its written form. -/
  | number (text : String)
  /-- A string: the text between its double quotes, escapes kept. -/
  | string (body : String)
  | array (items : List JsonNode)
  | object (members : List (String × JsonNode))
deriving Inhabited

/-- The hexadecimal digits of a nibble. -/
def hexDigitChar (n : Nat) : Char := "0123456789abcdef".toList.getD n '0'

/-- The escape of a control character inside a string. -/
def controlEscape (c : Char) : String :=
  match c with
  | '\x08' => "\\b"
  | '\t' => "\\t"
  | '\n' => "\\n"
  | '\x0c' => "\\f"
  | '\r' => "\\r"
  | _ => "\\u00" ++ String.ofList [hexDigitChar (c.toNat / 16), hexDigitChar (c.toNat % 16)]

mutual
/-- The minified text of a value. -/
def JsonNode.render : JsonNode → String
  | .null => "null"
  | .bool b => if b then "true" else "false"
  | .number t => t
  | .string s => "\"" ++ s ++ "\""
  | .array items => "[" ++ ",".intercalate (renderItems items) ++ "]"
  | .object members => "\x7b" ++ ",".intercalate (renderMembers members) ++ "\x7d"

/-- The texts of the items of an array. -/
def renderItems : List JsonNode → List String
  | [] => []
  | v :: rest => v.render :: renderItems rest

/-- The texts of the members of an object. -/
def renderMembers : List (String × JsonNode) → List String
  | [] => []
  | (k, v) :: rest => ("\"" ++ k ++ "\":" ++ v.render) :: renderMembers rest
end

/-- The characters JSON5 takes as blanks besides the standard ones. -/
def isJsonBlank (c : Char) : Bool :=
  c = ' ' || c = '\t' || c = '\n' || c = '\r' || c = '\x0b' || c = '\x0c' ||
    [0xA0, 0x1680, 0x2028, 0x2029, 0x202F, 0x205F, 0x3000, 0xFEFF].contains c.toNat ||
    (0x2000 ≤ c.toNat && c.toNat ≤ 0x200A)

/-- Skips blanks and comments; none when a block comment is never closed. -/
def skipJsonBlank : Nat → List Char → Option (List Char)
  | 0, cs => some cs
  | fuel + 1, cs =>
    match cs with
    | c :: rest =>
      if isJsonBlank c then skipJsonBlank fuel rest
      else if c = '/' then
        match rest with
        | '/' :: more => skipJsonBlank fuel (more.dropWhile fun d => d ≠ '\n' && d ≠ '\r')
        | '*' :: more =>
          let text := String.ofList more
          match text.splitOn "*/" with
          | _ :: after :: tail => skipJsonBlank fuel ("*/".intercalate (after :: tail)).toList
          | _ => none
        | _ => some cs
      else some cs
    | [] => some []

/-- Whether some characters start with four hexadecimal digits. -/
def fourHex (cs : List Char) : Bool := cs.length ≥ 4 && (cs.take 4).all isHexDigit

/-- A string body up to its closing delimiter: the body in standard form and the characters
after the delimiter. -/
def jsonStringBody (delim : Char) : Nat → List Char → List Char → Option (String × List Char)
  | 0, _, _ => none
  | _ + 1, [], _ => none
  | fuel + 1, c :: rest, acc =>
    if c = delim then some (String.ofList acc.reverse, rest)
    else if c = '\\' then
      match rest with
      | d :: more =>
        if d = '"' || d = '\\' || d = '/' || d = 'b' || d = 'f' || d = 'n' || d = 'r' || d = 't' then
          jsonStringBody delim fuel more (d :: '\\' :: acc)
        else if d = 'u' && fourHex more then
          jsonStringBody delim fuel (more.drop 4) ((more.take 4).reverse ++ ['u', '\\'] ++ acc)
        else if d = '\'' then jsonStringBody delim fuel more ('\'' :: acc)
        else if d = 'v' then jsonStringBody delim fuel more ("\\u0009".toList.reverse ++ acc)
        else if d = '0' && !((more.head?.map Char.isDigit).getD false) then
          jsonStringBody delim fuel more ("\\u0000".toList.reverse ++ acc)
        else if d = 'x' && more.length ≥ 2 && (more.take 2).all isHexDigit then
          jsonStringBody delim fuel (more.drop 2) ((more.take 2).reverse ++ "\\u00".toList.reverse ++ acc)
        else if d = '\n' || d = '\u2028' || d = '\u2029' then jsonStringBody delim fuel more acc
        else if d = '\r' then
          jsonStringBody delim fuel (if more.head? = some '\n' then more.drop 1 else more) acc
        else none
      | [] => none
    else if c = '\x00' then none
    else if c.toNat < 0x20 then jsonStringBody delim fuel rest ((controlEscape c).toList.reverse ++ acc)
    else if c = '"' then jsonStringBody delim fuel rest ('"' :: '\\' :: acc)
    else jsonStringBody delim fuel rest (c :: acc)

/-- The characters of an unquoted key. -/
def isKeyChar (c : Char) : Bool := c.isAlphanum || c = '_' || c = '$' || c.toNat ≥ 0x80

/-- Whether some characters start with a word, in any case, not followed by a letter or
digit. -/
def startsWithWord (cs : List Char) (w : String) : Bool :=
  let n := w.length
  asciiLower (String.ofList (cs.take n)) = asciiLower w && !((cs.drop n).head?.map Char.isAlphanum).getD false

/-- Whether some characters start with a word exactly, not followed by a letter or digit. -/
def exactWord (cs : List Char) (w : String) : Bool :=
  cs.take w.length = w.toList && !((cs.drop w.length).head?.map Char.isAlphanum).getD false

/-- A hexadecimal number after its `0x`, written in decimal; `9.0e999` when it needs more than
64 bits. -/
def hexNumberText (ds : List Char) : String :=
  let rec go : List Char → Nat → Bool → Nat × Bool
    | [], u, wide => (u, wide)
    | c :: rest, u, wide =>
      if wide || u / Nat.pow 2 60 ≠ 0 then go rest u true else go rest (u * 16 + hexValue c) wide
  match go ds 0 false with
  | (_, true) => "9.0e999"
  | (u, false) => toString u

/-- A number: its text in standard form and the characters after it. -/
def jsonNumber (cs : List Char) : Option (String × List Char) :=
  let (sign, body) := match cs with
    | '-' :: rest => ("-", rest)
    | '+' :: rest => ("", rest)
    | rest => ("", rest)
  match body with
  | '0' :: x :: h :: rest =>
    if (x = 'x' || x = 'X') && isHexDigit h then
      let ds := h :: rest.takeWhile isHexDigit
      some (sign ++ hexNumberText ds, rest.dropWhile isHexDigit)
    else decimal sign body
  | _ =>
    if startsWithWord body "infinity" then some (sign ++ "9e999", body.drop 8)
    else if startsWithWord body "inf" then some (sign ++ "9e999", body.drop 3)
    else decimal sign body
where
  /-- A decimal number: digits, a point and an exponent, with at least one digit on a side of
  the point. -/
  decimal (sign : String) (body : List Char) : Option (String × List Char) :=
    let whole := body.takeWhile Char.isDigit
    let rest := body.drop whole.length
    if whole.length > 1 && whole.head? = some '0' then none
    else
      let (frac, point, rest) := match rest with
        | '.' :: more => (more.takeWhile Char.isDigit, true, more.dropWhile Char.isDigit)
        | _ => ([], false, rest)
      if whole.isEmpty && frac.isEmpty then none
      else if !point && whole.isEmpty then none
      else
        let expo : Option (List Char × List Char) := match rest with
          | e :: more =>
            if e = 'e' || e = 'E' then
              let (s, more) := match more with
                | '+' :: m => (['+'], m)
                | '-' :: m => (['-'], m)
                | m => ([], m)
              let ds := more.takeWhile Char.isDigit
              if ds.isEmpty then none else some (e :: s ++ ds, more.drop ds.length)
            else some ([], rest)
          | [] => some ([], [])
        match expo with
        | none => none
        | some (ex, after) =>
          let w := if whole.isEmpty then ['0'] else whole
          let f := if point then '.' :: (if frac.isEmpty then ['0'] else frac) else []
          some (sign ++ String.ofList (w ++ f ++ ex), after)

mutual
/-- A value and the characters after it. -/
def jsonValue : Nat → List Char → Option (JsonNode × List Char)
  | 0, _ => none
  | fuel + 1, cs => do
    let cs ← skipJsonBlank (cs.length + 1) cs
    match cs with
    | [] => none
    | c :: rest =>
      if c = '{' then jsonMembers fuel rest []
      else if c = '[' then jsonItems fuel rest []
      else if c = '"' || c = '\'' then
        let (body, after) ← jsonStringBody c (rest.length + 1) rest []
        some (.string body, after)
      else if exactWord cs "true" then some (.bool true, cs.drop 4)
      else if exactWord cs "false" then some (.bool false, cs.drop 5)
      else if exactWord cs "null" then some (.null, cs.drop 4)
      else if startsWithWord cs "nan" then some (.null, cs.drop 3)
      else if startsWithWord cs "qnan" || startsWithWord cs "snan" then some (.null, cs.drop 4)
      else
        let (text, after) ← jsonNumber cs
        some (.number text, after)

/-- The items of an array after its opening bracket. -/
def jsonItems : Nat → List Char → List JsonNode → Option (JsonNode × List Char)
  | 0, _, _ => none
  | fuel + 1, cs, acc => do
    let cs ← skipJsonBlank (cs.length + 1) cs
    match cs with
    | ']' :: rest => some (.array acc.reverse, rest)
    | _ =>
      let (v, after) ← jsonValue fuel cs
      let after ← skipJsonBlank (after.length + 1) after
      match after with
      | ',' :: more => jsonItems fuel more (v :: acc)
      | ']' :: more => some (.array (v :: acc).reverse, more)
      | _ => none

/-- The members of an object after its opening brace. -/
def jsonMembers : Nat → List Char → List (String × JsonNode) → Option (JsonNode × List Char)
  | 0, _, _ => none
  | fuel + 1, cs, acc => do
    let cs ← skipJsonBlank (cs.length + 1) cs
    match cs with
    | '}' :: rest => some (.object acc.reverse, rest)
    | c :: rest =>
      let (key, after) ← if c = '"' || c = '\'' then jsonStringBody c (rest.length + 1) rest []
        else if c.isAlpha || c = '_' || c = '$' || c.toNat ≥ 0x80 then
          some (String.ofList (c :: rest.takeWhile isKeyChar), rest.dropWhile isKeyChar)
        else none
      let after ← skipJsonBlank (after.length + 1) after
      match after with
      | ':' :: more =>
        let (v, after) ← jsonValue fuel more
        let after ← skipJsonBlank (after.length + 1) after
        match after with
        | ',' :: more => jsonMembers fuel more ((key, v) :: acc)
        | '}' :: more => some (.object ((key, v) :: acc).reverse, more)
        | _ => none
      | _ => none
    | [] => none
end

/-- Reads a whole text as one JSON value; none when it is malformed. -/
def JsonNode.parse? (text : String) : Option JsonNode := do
  let cs := text.toList
  let (v, rest) ← jsonValue (2 * cs.length + 4) cs
  let rest ← skipJsonBlank (rest.length + 1) rest
  if rest.isEmpty then some v else none

/-- A text as a JSON string literal. -/
def jsonQuote (s : String) : String :=
  let body := s.toList.flatMap fun c =>
    if c = '"' then ['\\', '"']
    else if c = '\\' then ['\\', '\\']
    else if c.toNat < 0x20 then (controlEscape c).toList
    else [c]
  "\"" ++ String.ofList body ++ "\""

end PassPlan.Sql
