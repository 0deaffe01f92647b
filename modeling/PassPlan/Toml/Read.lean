import PassPlan.Toml.Number
/-!
Reading TOML text into the lines of a document. Blanks are spaces and tabs; a line ends with a
line feed, alone or after a carriage return; no control character but the tab may stand in a
comment or a string. A key is a bare word of letters, digits, `-` and `_`, or a basic or
literal string, and dotted keys join such parts. A value is a string (basic, literal, or either
over several lines), an integer (decimal without leading zeros, or hexadecimal, octal or binary
after `0x`, `0o`, `0b`), a float (with a fraction, an exponent or both; `inf` and `nan`), a
boolean, a date or time, an array (items apart by commas, a trailing comma allowed, and
comments and line breaks anywhere between them) or an inline table on one line. Underscores
in numbers stand only between digits. Integers must fit in 64 bits, and floats must not
overflow.
-/
namespace PassPlan.Toml

/-- Whether a character may stand in a comment or a string: every character but the controls
other than tab and the line break characters. -/
def allowed (c : Char) : Bool :=
  c = '\t' || c = '\n' || c = '\r' || (c.toNat ≥ 0x20 && c.toNat ≠ 0x7F)

/-- Skips spaces and tabs. -/
def skipWs (cs : List Char) : List Char := cs.dropWhile fun c => c = ' ' || c = '\t'

/-- Skips a comment after its mark, up to the line break that ends it. -/
def skipComment : List Char → Except String (List Char)
  | [] => .ok []
  | '\n' :: rest => .ok ('\n' :: rest)
  | '\r' :: '\n' :: rest => .ok ('\n' :: rest)
  | c :: rest => if allowed c then skipComment rest else .error "invalid character in comment"

/-- Reads a line break. -/
def newline : List Char → Except String (List Char)
  | '\n' :: rest => .ok rest
  | '\r' :: '\n' :: rest => .ok rest
  | _ => .error "expected newline"

/-- The value of a hexadecimal digit. -/
def hexDigit (c : Char) : Option Nat :=
  if c.isDigit then some (c.toNat - 48)
  else if 'a' ≤ c && c ≤ 'f' then some (c.toNat - 87)
  else if 'A' ≤ c && c ≤ 'F' then some (c.toNat - 55)
  else none

/-- Reads `n` hexadecimal digits as a Unicode scalar value. -/
def hexChar (n : Nat) (cs : List Char) : Except String (Char × List Char) :=
  let ds := cs.take n
  let v := ds.foldl (fun acc c => acc.bind fun a => (hexDigit c).map (a * 16 + ·)) (some 0)
  match v with
  | some v =>
    if ds.length < n then .error "unicode point too short"
    else if v > 0x10FFFF || (0xD800 ≤ v && v < 0xE000) then .error "escape sequence is invalid Unicode code point"
    else .ok (Char.ofNat v, cs.drop n)
  | none => .error "non-hex character"

/-- The character an escape stands for, read after its backslash. -/
def escape : List Char → Except String (Char × List Char)
  | '"' :: rest => .ok ('"', rest)
  | '\\' :: rest => .ok ('\\', rest)
  | 'b' :: rest => .ok ('\x08', rest)
  | 'f' :: rest => .ok ('\x0c', rest)
  | 'n' :: rest => .ok ('\n', rest)
  | 'r' :: rest => .ok ('\r', rest)
  | 't' :: rest => .ok ('\t', rest)
  | 'e' :: rest => .ok ('\x1b', rest)
  | 'u' :: rest => hexChar 4 rest
  | 'U' :: rest => hexChar 8 rest
  | _ => .error "invalid escaped character"

/-- Reads a basic string after its opening quote: escapes, and no line break before the
closing quote. -/
def basicString : Nat → List Char → List Char → Except String (String × List Char)
  | 0, _, _ => .error "basic string too long"
  | fuel + 1, cs, acc =>
    match cs with
    | [] => .error "basic string not terminated"
    | '"' :: rest => .ok (String.ofList acc.reverse, rest)
    | '\\' :: rest => do
      let (c, more) ← escape rest
      basicString fuel more (c :: acc)
    | c :: rest =>
      if c = '\n' || c = '\r' then .error "basic strings cannot have new lines"
      else if allowed c then basicString fuel rest (c :: acc)
      else .error "invalid character in basic string"

/-- Reads a literal string after its opening quote: every character as it stands, up to the
closing quote on the same line. -/
def literalString : List Char → List Char → Except String (String × List Char)
  | [], _ => .error "unterminated literal string"
  | '\'' :: rest, acc => .ok (String.ofList acc.reverse, rest)
  | c :: rest, acc =>
    if c = '\n' || c = '\r' then .error "literal strings cannot have new lines"
    else if allowed c then literalString rest (c :: acc)
    else .error "invalid character in literal string"

/-- The end of a multi-line string at three quotes: up to two more quotes right after them
belong to the body, and six in a row are an error. -/
def closeQuotes (q : Char) (acc rest : List Char) : Except String (String × List Char) :=
  match rest with
  | a :: b :: c :: _ =>
    if a = q && b = q && c = q then .error "too many quotes in a row in a multi-line string"
    else if a = q && b = q then .ok (String.ofList (q :: q :: acc).reverse, rest.drop 2)
    else if a = q then .ok (String.ofList (q :: acc).reverse, rest.drop 1)
    else .ok (String.ofList acc.reverse, rest)
  | [a, b] =>
    if a = q && b = q then .ok (String.ofList (q :: q :: acc).reverse, [])
    else if a = q then .ok (String.ofList (q :: acc).reverse, [b])
    else .ok (String.ofList acc.reverse, rest)
  | [a] => if a = q then .ok (String.ofList (q :: acc).reverse, []) else .ok (String.ofList acc.reverse, rest)
  | [] => .ok (String.ofList acc.reverse, [])

/-- Drops the line break that may open the body of a multi-line string. -/
def dropFirstBreak : List Char → List Char
  | '\n' :: rest => rest
  | '\r' :: '\n' :: rest => rest
  | cs => cs

/-- Reads the body of a multi-line literal string after its opening quotes. -/
def multiLiteral : List Char → List Char → Except String (String × List Char)
  | [], _ => .error "multi-line literal string not terminated"
  | '\'' :: '\'' :: '\'' :: rest, acc => closeQuotes '\'' acc rest
  | '\r' :: '\n' :: rest, acc => multiLiteral rest ('\n' :: '\r' :: acc)
  | c :: rest, acc =>
    if c = '\r' then .error "carriage return must be followed by a line feed"
    else if allowed c then multiLiteral rest (c :: acc)
    else .error "invalid character in multi-line literal string"

/-- Whether a backslash ends its line: only blanks stand between it and a line break. -/
def endsLine : List Char → Bool
  | ' ' :: rest | '\t' :: rest => endsLine rest
  | '\r' :: '\n' :: _ => true
  | '\n' :: _ => true
  | _ => false

/-- Skips the blanks and line breaks after a backslash that ends its line. -/
def skipFolded : List Char → List Char
  | ' ' :: rest | '\t' :: rest | '\n' :: rest => skipFolded rest
  | '\r' :: '\n' :: rest => skipFolded rest
  | cs => cs

/-- Reads the body of a multi-line basic string after its opening quotes: escapes, line breaks,
and a backslash at the end of a line that drops the blanks and line breaks after it. -/
def multiBasic : Nat → List Char → List Char → Except String (String × List Char)
  | 0, _, _ => .error "multi-line basic string too long"
  | fuel + 1, cs, acc =>
    match cs with
    | [] => .error "multi-line basic string not terminated"
    | '"' :: '"' :: '"' :: rest => closeQuotes '"' acc rest
    | '\\' :: rest =>
      if endsLine rest then multiBasic fuel (skipFolded rest) acc
      else do
        let (c, more) ← escape rest
        multiBasic fuel more (c :: acc)
    | '\r' :: '\n' :: rest => multiBasic fuel rest ('\n' :: '\r' :: acc)
    | c :: rest =>
      if c = '\r' then .error "carriage return must be followed by a line feed"
      else if allowed c then multiBasic fuel rest (c :: acc)
      else .error "invalid character in multi-line basic string"

/-- Whether a character may stand in a bare key. -/
def isBareKeyChar (c : Char) : Bool := c.isAlphanum || c = '-' || c = '_'

/-- Reads one part of a key: a bare word, or a basic or literal string. -/
def keyPart (fuel : Nat) : List Char → Except String (String × List Char)
  | '"' :: rest => basicString fuel rest []
  | '\'' :: rest => literalString rest []
  | c :: rest =>
    if isBareKeyChar c then
      let word := (c :: rest).takeWhile isBareKeyChar
      .ok (String.ofList word, (c :: rest).drop word.length)
    else .error "invalid character at start of key"
  | [] => .error "expected key but found none"

/-- Reads a dotted key, with blanks around its dots, and skips the blanks after it. -/
def key : Nat → List Char → Except String (List String × List Char)
  | 0, _ => .error "key too long"
  | fuel + 1, cs => do
    let (part, rest) ← keyPart fuel cs
    match skipWs rest with
    | '.' :: more => do
      let (parts, after) ← key fuel (skipWs more)
      .ok (part :: parts, after)
    | after => .ok ([part], after)

/-- Skips blanks, comments and line breaks between the items of an array. -/
def gap : Nat → List Char → Except String (List Char)
  | 0, cs => .ok cs
  | fuel + 1, cs => do
    let cs := skipWs cs
    let cs ← match cs with
      | '#' :: rest => skipComment rest
      | _ => pure cs
    match cs with
    | '\n' :: _ | '\r' :: _ => gap fuel (← newline cs)
    | _ => .ok cs

mutual
/-- Reads a value. -/
def value : Nat → List Char → Except String (Datum × List Char)
  | 0, _ => .error "value nested too deeply"
  | fuel + 1, cs =>
    match cs with
    | [] => .error "expected value, not eof"
    | '"' :: '"' :: '"' :: rest => do
      let (s, more) ← multiBasic fuel (dropFirstBreak rest) []
      .ok (.str s, more)
    | '"' :: rest => do
      let (s, more) ← basicString fuel rest []
      .ok (.str s, more)
    | '\'' :: '\'' :: '\'' :: rest => do
      let (s, more) ← multiLiteral (dropFirstBreak rest) []
      .ok (.str s, more)
    | '\'' :: rest => do
      let (s, more) ← literalString rest []
      .ok (.str s, more)
    | 't' :: _ =>
      if "true".toList.isPrefixOf cs then .ok (.bool true, cs.drop 4) else .error "expected 'true'"
    | 'f' :: _ =>
      if "false".toList.isPrefixOf cs then .ok (.bool false, cs.drop 5) else .error "expected 'false'"
    | '[' :: rest => arrayItems fuel true rest []
    | '{' :: rest => inlinePairs fuel true rest []
    | _ => numberOrMoment cs

/-- Reads the items of an array after its opening bracket, up to its closing bracket. -/
def arrayItems : Nat → Bool → List Char → List Datum → Except String (Datum × List Char)
  | 0, _, _, _ => .error "array too long"
  | fuel + 1, first, cs, acc => do
    let cs ← gap fuel cs
    match cs with
    | [] => .error "array is incomplete"
    | ']' :: rest => .ok (.array acc.reverse, rest)
    | ',' :: rest =>
      if first then .error "array cannot start with comma"
      else
        match ← gap fuel rest with
        | ']' :: more => .ok (.array acc.reverse, more)
        | more => do
          let (v, after) ← value fuel more
          arrayItems fuel false after (v :: acc)
    | _ =>
      if first then do
        let (v, after) ← value fuel cs
        arrayItems fuel false after (v :: acc)
      else .error "array elements must be separated by commas"

/-- Reads the pairs of an inline table after its opening brace, up to its closing brace, all
on one line. -/
def inlinePairs : Nat → Bool → List Char → List (List String × Datum) →
    Except String (Datum × List Char)
  | 0, _, _, _ => .error "inline table too long"
  | fuel + 1, first, cs, acc =>
    match skipWs cs with
    | [] => .error "inline table is incomplete"
    | '}' :: rest => .ok (.inline acc.reverse, rest)
    | c :: rest => do
      let start ← if first then pure (c :: rest)
        else if c = ',' then pure (skipWs rest) else .error "expected ',' between pairs of an inline table"
      let (p, after) ← pair fuel start
      inlinePairs fuel false after (p :: acc)

/-- Reads a pair: a key, `=` and a value, blanks around the sign. -/
def pair : Nat → List Char → Except String ((List String × Datum) × List Char)
  | 0, _ => .error "pair nested too deeply"
  | fuel + 1, cs => do
    let (k, rest) ← key fuel cs
    match skipWs rest with
    | '=' :: more => do
      let (v, after) ← value fuel (skipWs more)
      .ok ((k, v), after)
    | [] => .error "expected = after a key, but the document ends there"
    | _ => .error "expected character ="
end

/-- Reads the line that starts a text: a table header, an array-of-tables header, a pair, or
nothing before a comment or a line break. -/
def expression (fuel : Nat) (cs : List Char) : Except String (Option Expr × List Char) :=
  match cs with
  | '#' :: _ | '\n' :: _ | '\r' :: _ => .ok (none, cs)
  | '[' :: '[' :: rest => do
    let (k, more) ← key fuel (skipWs rest)
    match skipWs more with
    | ']' :: ']' :: after => .ok (some (.arrayTable k), after)
    | _ => .error "expected ']]' to close an array table"
  | '[' :: rest => do
    let (k, more) ← key fuel (skipWs rest)
    match skipWs more with
    | ']' :: after => .ok (some (.table k), after)
    | _ => .error "expected ']' to close a table"
  | _ => do
    let ((k, v), after) ← pair fuel cs
    .ok (some (.pair k v), after)

/-- Reads the lines of a document: each line holds at most one expression, then blanks and a
comment. -/
def expressions : Nat → List Char → List Expr → Except String (List Expr)
  | 0, _, _ => .error "document too long"
  | fuel + 1, cs, acc => do
    match skipWs cs with
    | [] => .ok acc.reverse
    | line => do
      let (e, rest) ← expression fuel line
      let acc := match e with
        | some e => e :: acc
        | none => acc
      let rest ← match skipWs rest with
        | '#' :: more => skipComment more
        | more => pure more
      match rest with
      | [] => .ok acc.reverse
      | _ => expressions fuel (← newline rest) acc

/-- Reads a TOML text into the lines of its document. -/
def readExpressions (text : String) : Except String (List Expr) :=
  let cs := text.toList
  expressions (2 * cs.length + 8) cs []

end PassPlan.Toml
