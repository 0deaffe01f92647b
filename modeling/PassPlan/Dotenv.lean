import PassPlan.Text.Blank
/-!
Env files: lines of `KEY=VALUE` (or `KEY: VALUE`), perhaps after `export`, with blank lines and
`#` comments between them. Lines break at line feeds, carriage returns or both; each line is
trimmed, and a value that opens a quote it does not close takes the following lines up to the
one with the closing quote. A key is made of letters, digits, `_` and `.`. A value may be
single quoted (kept as written), double quoted (with `\n`, `\r` and backslash escapes), or bare
up to a comment; outside single quotes `$NAME` and `${NAME}` (names of capitals, digits and `_`)
stand for the variable of the environment, else one defined earlier in the file, else nothing,
and `\$` for a dollar. A line of another shape makes the whole file unreadable.
-/
namespace PassPlan.Dotenv

/-- Splits a text into lines at a line feed, a carriage return, or both in that order; a last
line without a break counts. -/
def splitLines : List Char → List Char → List (List Char)
  | [], cur => if cur.isEmpty then [] else [cur.reverse]
  | '\r' :: '\n' :: rest, cur => cur.reverse :: splitLines rest []
  | c :: rest, cur =>
    if c = '\r' || c = '\n' then cur.reverse :: splitLines rest [] else splitLines rest (c :: cur)

/-- The blanks of the line pattern: space, tab, line feed, form feed and carriage return. -/
def isSpace (c : Char) : Bool := c = ' ' || c = '\t' || c = '\n' || c = '\x0c' || c = '\r'

/-- The characters of a key: ASCII letters and digits, `_` and `.`. -/
def isKeyChar (c : Char) : Bool := c.isAlphanum || c = '_' || c = '.'

/-- Whether the rest of a line is blanks, perhaps followed by a comment that runs to its end. -/
def tailOk (cs : List Char) : Bool :=
  match cs.dropWhile isSpace with
  | [] => true
  | '#' :: rest => !rest.contains '\n'
  | _ => false

/-- A value quoted with `q` at the start of a text, up to the last such quote that leaves an
acceptable rest of the line. -/
def quotedValue (q : Char) : List Char → Option (List Char)
  | c :: rest =>
    if c = q then
      (List.range rest.length).reverse.findSome? fun j =>
        if rest[j]? = some q && tailOk (rest.drop (j + 1)) then some (c :: rest.take (j + 1)) else none
    else none
  | [] => none

/-- The value at the start of a text and the rest of the line, as the pattern takes it: single
quoted, double quoted, bare up to a `#` or a line break, or empty; none when the rest of the
line is not acceptable. -/
def valueMatch (cs : List Char) : Option (List Char) :=
  match quotedValue '\'' cs with
  | some v => some v
  | none =>
    match quotedValue '"' cs with
    | some v => some v
    | none =>
      let run := cs.takeWhile fun c => c ≠ '#' && c ≠ '\n'
      if !run.isEmpty && tailOk (cs.drop run.length) then some run
      else if tailOk cs then some []
      else none

/-- The key and the raw value of a line whose key starts the text: `=` with blanks around it,
or `:` and at least one blank, then the value. -/
def afterKey (cs : List Char) : Option (String × String) :=
  let k := cs.takeWhile isKeyChar
  let rest := cs.drop k.length
  let viaEquals : Option (List Char) :=
    match rest.dropWhile isSpace with
    | '=' :: more => valueMatch (more.dropWhile isSpace)
    | _ => none
  let viaColon : Option (List Char) :=
    match rest with
    | ':' :: more =>
      (List.range (more.takeWhile isSpace).length).findSome? fun i => valueMatch (more.drop (i + 1))
    | _ => none
  if k.isEmpty then none
  else (viaEquals.orElse fun _ => viaColon).map fun v => (String.ofList k, String.ofList v)

/-- The key and the raw value of a line, perhaps after `export` and blanks. -/
def matchLine (cs : List Char) : Option (String × String) :=
  let cs := cs.dropWhile isSpace
  let exported : Option (String × String) :=
    if "export".toList.isPrefixOf cs then
      let rest := cs.drop 6
      let blanks := rest.takeWhile isSpace
      if blanks.isEmpty then none else afterKey (rest.drop blanks.length)
    else none
  exported.orElse fun _ => afterKey cs

/-- Replaces every occurrence of a pattern, left to right. -/
def replaceAll (pat new : List Char) : Nat → List Char → List Char
  | 0, cs => cs
  | fuel + 1, cs =>
    match cs with
    | [] => []
    | c :: rest =>
      if !pat.isEmpty && pat.isPrefixOf cs then new ++ replaceAll pat new fuel (cs.drop pat.length)
      else c :: replaceAll pat new fuel rest

/-- Drops each backslash that escapes a character other than `$`. -/
def unescape : List Char → List Char
  | '\\' :: c :: rest => if c = '$' then '\\' :: unescape (c :: rest) else c :: unescape rest
  | c :: rest => c :: unescape rest
  | [] => []

/-- Whether a character may stand in a variable's name. -/
def isNameChar (c : Char) : Bool := ('A' ≤ c && c ≤ 'Z') || c.isDigit || c = '_'

/-- The name after a dollar: an optional opening brace, the name, and an optional closing
brace. Gives the name, the characters taken and the rest. -/
def reference (cs : List Char) : List Char × List Char × List Char :=
  let (openBrace, cs1) := match cs with
    | '{' :: more => (['{'], more)
    | _ => ([], cs)
  let name := cs1.takeWhile isNameChar
  let cs2 := cs1.drop name.length
  let (closeBrace, cs3) := match cs2 with
    | '}' :: more => (['}'], more)
    | _ => ([], cs2)
  (name, openBrace ++ name ++ closeBrace, cs3)

/-- Expands variables: `$NAME`, `${NAME}`, `${NAME` and `$NAME}` stand for the variable's value,
a dollar without a name stays as written, and a backslash before a dollar keeps the reference
as written. -/
def expand (lookup : String → String) : Nat → List Char → List Char
  | 0, cs => cs
  | fuel + 1, cs =>
    match cs with
    | [] => []
    | '\\' :: '$' :: rest =>
      let (_, used, after) := reference rest
      '$' :: used ++ expand lookup fuel after
    | '$' :: rest =>
      let (name, used, after) := reference rest
      if name.isEmpty then '$' :: used ++ expand lookup fuel after
      else (lookup (String.ofList name)).toList ++ expand lookup fuel after
    | c :: rest => c :: expand lookup fuel rest

/-- The value of a line's raw value: quotes removed; in double quotes `\n` and `\r` read as
breaks and a backslash before any other character but `$` dropped; outside single quotes
variables expanded. -/
def valueOf (lookup : String → String) (raw : String) : String :=
  let cs := (Text.trim raw).toList
  let dq := cs.length ≥ 2 && cs.head? = some '"' && cs.getLast? = some '"'
  let sq := cs.length ≥ 2 && cs.head? = some '\'' && cs.getLast? = some '\''
  let inner := if dq || sq then (cs.drop 1).dropLast else cs
  let inner := if dq then
      let n := inner.length + 1
      unescape (replaceAll ['\\', 'r'] ['\r'] n (replaceAll ['\\', 'n'] ['\n'] n inner))
    else inner
  String.ofList (if sq then inner else expand lookup (inner.length + 1) inner)

/-- The last place of a byte in a list. -/
def lastIndex (bs : List UInt8) (b : UInt8) : Option Nat :=
  (List.range bs.length).reverse.find? fun j => bs[j]? = some b

/-- The quote that a trimmed line opens right after its `=` (or, without one, its `:`) and does
not close on the same line: a quote whose last partner on the line follows a backslash is
open. The check counts bytes, as the lines are read. -/
def openQuote (line : String) : Option Char :=
  let cs := line.toList
  let idx := (cs.findIdx? (· = '=')).orElse fun _ => cs.findIdx? (· = ':')
  match idx with
  | some i =>
    if i > 0 && i + 1 < cs.length then
      let v := Text.trim (String.ofList (cs.drop (i + 1)))
      match v.toList with
      | q :: after =>
        if q = '"' || q = '\'' then
          let t := (Text.trim (String.ofList after)).toUTF8.toList
          match lastIndex t q.toNat.toUInt8 with
          | some j => if v.toUTF8.toList[j]? = some 92 then some q else none
          | none => some q
        else none
      | [] => none
    else none
  | none => none

/-- Joins the lines that follow a line with an open quote, up to the one that closes it (its
last such quote not after a backslash). Gives the joined line, the lines left, and whether the
quote was closed. -/
def gather (q : Char) : String → List (List Char) → String × List (List Char) × Bool
  | line, [] => (line, [], false)
  | line, l :: rest =>
    let joined := line ++ "\n" ++ String.ofList l
    match (List.range l.length).reverse.find? fun j => l[j]? = some q with
    | some j =>
      if j > 0 && l[j - 1]? = some '\\' then gather q joined rest else (joined, rest, true)
    | none => gather q joined rest

/-- Reads the lines of a file into pairs, each later one replacing an earlier one of its key. -/
def pairs (env : List (String × String)) : Nat → List (List Char) → List (String × String) →
    Option (List (String × String))
  | 0, _, acc => some acc
  | _ + 1, [], acc => some acc
  | fuel + 1, l :: rest, acc =>
    let line := Text.trim (String.ofList l)
    if line = "" || line.startsWith "#" then pairs env fuel rest acc
    else
      let (joined, rest, closed) := match openQuote line with
        | some q => gather q line rest
        | none => (line, rest, true)
      if !closed then none
      else
        match matchLine joined.toList with
        | none => none
        | some (k, raw) =>
          let lookup (name : String) : String :=
            (env.lookup name).getD ((acc.lookup name).getD "")
          let v := valueOf lookup raw
          pairs env fuel rest (acc.filter (·.1 ≠ k) ++ [(k, v)])

/-- Reads an env file with the variables of the environment: its pairs, or none when a line has
another shape or a quote is never closed. A byte order mark that opens the file is dropped. -/
def parse (env : List (String × String)) (text : String) : Option (List (String × String)) :=
  let cs := match text.toList with
    | c :: rest => if c.toNat = 0xFEFF then rest else c :: rest
    | [] => []
  let lines := splitLines cs []
  pairs env (lines.length + 1) lines []

end PassPlan.Dotenv
