import PassPlan.Sql.Value
/-!
Cutting SQL text into tokens: words, quoted names, string, number and blob literals, parameter
marks and operators, each with the text it was written as. Blanks and comments separate tokens;
a comment left open runs to the end of the text, and the text ends at a zero character.

Text that forms no token (a quote left open, a blob literal with an odd number of hex digits or
other characters, a number run into a name, a lone `!` or a character of no token) becomes an
illegal token. Reading is never refused here: a statement fails on an illegal token only when
its reader gets to it, so the statements before it still run.
-/
namespace PassPlan.Sql

/-- What a token is. -/
inductive TokenKind where
  /-- A word: a keyword or a name. -/
  | word (w : String)
  /-- A name in double quotes, backquotes or brackets. -/
  | quoted (name : String)
  | str (s : String)
  /-- A number as written, digit separators included. -/
  | num (text : String)
  | blob (bytes : List Nat)
  /-- A parameter mark, by its position counted from zero. -/
  | param (index : Nat)
  /-- An operator or punctuation. -/
  | sym (s : String)
  /-- Text that forms no token. -/
  | bad
deriving DecidableEq, Repr, Inhabited

/-- A token, the text it was written as and the blanks and comments before it. -/
structure Token where
  kind : TokenKind
  text : String
  gap : String := ""
deriving DecidableEq, Repr, Inhabited

/-- The text a run of tokens was written as, from its first token on. -/
def spanText : List Token → String
  | [] => ""
  | t :: rest => t.text ++ String.join (rest.map fun u => u.gap ++ u.text)

/-- Characters that continue a name: letters, digits, `_`, `$` and every character beyond
ASCII. -/
def isIdChar (c : Char) : Bool := c.isAlphanum || c = '_' || c = '$' || c.toNat ≥ 0x80

/-- Characters that start a name. -/
def isIdStart (c : Char) : Bool := c.isAlpha || c = '_' || c.toNat ≥ 0x80

/-- Blanks between tokens: space, tab, line feed, form feed and carriage return. -/
def isSqlSpace (c : Char) : Bool := c = ' ' || c = '\t' || c = '\n' || c = '\x0c' || c = '\r'

/-- Whether a character is a hexadecimal digit. -/
def isHexDigit (c : Char) : Bool := c.isDigit || ('a' ≤ c && c ≤ 'f') || ('A' ≤ c && c ≤ 'F')

/-- The value of a hexadecimal digit. -/
def hexValue (c : Char) : Nat :=
  if c.isDigit then c.toNat - 48
  else if 'a' ≤ c && c ≤ 'f' then c.toNat - 87
  else if 'A' ≤ c && c ≤ 'F' then c.toNat - 55 else 0

/-- Pairs of hexadecimal digits as bytes. -/
def hexPairs : List Char → List Nat
  | a :: b :: rest => (hexValue a * 16 + hexValue b) :: hexPairs rest
  | _ => []

/-- The body of a quoted run after its opening quote: the text with each doubled quote standing
for one, and the characters after the closing quote; none when the quote is never closed. -/
def closeQuote (q : Char) : List Char → List Char → Option (List Char × List Char)
  | [], _ => none
  | c :: rest, acc =>
    if c = q then
      match rest with
      | c2 :: more => if c2 = q then closeQuote q more (q :: acc) else some (acc.reverse, rest)
      | [] => some (acc.reverse, [])
    else closeQuote q rest (c :: acc)

/-- The length of a quoted run after its opening quote up to its closing quote, doubled quotes
counted twice. -/
def quotedLength (q : Char) : List Char → Nat
  | [] => 0
  | c :: rest =>
    if c = q then
      match rest with
      | c2 :: more => if c2 = q then 2 + quotedLength q more else 0
      | [] => 0
    else 1 + quotedLength q rest

/-- Digits, or hex digits, with digit separators among them. -/
def digitRun (hex : Bool) (cs : List Char) : List Char :=
  cs.takeWhile fun c => (if hex then isHexDigit c else c.isDigit) || c = '_'

/-- The length of a decimal number at the start of some text: digits, a fraction and an
exponent. -/
def decimalLength (cs : List Char) : Nat :=
  let whole := (digitRun false cs).length
  let rest := cs.drop whole
  let frac := match rest with
    | '.' :: more => 1 + (digitRun false more).length
    | _ => 0
  let rest := rest.drop frac
  let expo := match rest with
    | e :: d :: more =>
      if e = 'e' || e = 'E' then
        if d.isDigit then 1 + (digitRun false (d :: more)).length
        else if (d = '+' || d = '-') && (more.head?.map Char.isDigit).getD false then
          2 + (digitRun false more).length
        else 0
      else 0
    | _ => 0
  whole + frac + expo

/-- The length of the number at the start of some text: hexadecimal after `0x`, else decimal. -/
def numberLength (cs : List Char) : Nat :=
  match cs with
  | '0' :: x :: h :: _ =>
    if (x = 'x' || x = 'X') && isHexDigit h then 2 + (digitRun true (cs.drop 2)).length
    else decimalLength cs
  | _ => decimalLength cs

/-- The operators of two characters. -/
def twoCharSyms : List String := ["||", "<=", ">=", "<>", "!=", "==", "<<", ">>", "->"]

/-- The operators of one character. -/
def oneCharSyms : List Char :=
  ['(', ')', ',', ';', '.', '=', '<', '>', '+', '-', '*', '/', '%', '&', '|', '~']

/-- How a parameter mark is numbered. -/
inductive Mark where
  | next
  | numbered (n : Nat)
  | named (name : String)

/-- The token at the start of some text, its mark if it is a parameter, and how many characters
it takes; none for blanks and comments. -/
def nextToken (cs : List Char) : Option (TokenKind × Option Mark) × Nat :=
  match cs with
  | [] => (none, 1)
  | c :: rest =>
    if isSqlSpace c then (none, 1)
    else if c = '\uFEFF' then (none, 1)
    else if c = '-' && rest.head? = some '-' then (none, 2 + ((rest.drop 1).takeWhile (· ≠ '\n')).length)
    else if c = '/' && rest.head? = some '*' && rest.length ≥ 2 then
      let body := rest.drop 1
      let parts := (String.ofList body).splitOn "*/"
      match parts with
      | first :: _ :: _ => (none, 2 + first.length + 2)
      | _ => (none, 1 + rest.length)
    else if c = '\'' || c = '"' || c = '`' then
      match closeQuote c rest [] with
      | some (body, _) =>
        let n := 2 + quotedLength c rest
        let s := String.ofList body
        (some (if c = '\'' then .str s else .quoted s, none), n)
      | none => (some (.bad, none), 1 + rest.length)
    else if c = '[' then
      match rest.findIdx? (· = ']') with
      | some i => (some (.quoted (String.ofList (rest.take i)), none), i + 2)
      | none => (some (.bad, none), 1 + rest.length)
    else if (c = 'x' || c = 'X') && rest.head? = some '\'' then
      let ds := (rest.drop 1).takeWhile isHexDigit
      let after := (rest.drop 1).drop ds.length
      if after.head? = some '\'' && ds.length % 2 = 0 then
        (some (.blob (hexPairs ds), none), 3 + ds.length)
      else
        let upto := (rest.drop 1).takeWhile (· ≠ '\'')
        let closed := (rest.drop (1 + upto.length)).head? = some '\''
        (some (.bad, none), 2 + upto.length + (if closed then 1 else 0))
    else if c.isDigit || (c = '.' && (rest.head?.map Char.isDigit).getD false) then
      let n := numberLength cs
      let more := ((cs.drop n).takeWhile isIdChar).length
      if more > 0 then (some (.bad, none), n + more)
      else (some (.num (String.ofList (cs.take n)), none), n)
    else if isIdStart c then
      let w := c :: rest.takeWhile isIdChar
      (some (.word (String.ofList w), none), w.length)
    else if c = '?' then
      let ds := rest.takeWhile Char.isDigit
      let mark := if ds.isEmpty then Mark.next else .numbered (digitsValue ds)
      (some (.param 0, some mark), 1 + ds.length)
    else if c = '$' || c = '@' || c = ':' || c = '#' then
      let name := rest.takeWhile isIdChar
      if name.isEmpty then (some (.bad, none), 1)
      else (some (.param 0, some (.named (String.ofList (c :: name)))), 1 + name.length)
    else if c = '-' && rest.take 2 = ['>', '>'] then (some (.sym "->>", none), 3)
    else
      let two := String.ofList [c, rest.headD ' ']
      if twoCharSyms.contains two then (some (.sym (if two = "==" then "=" else two), none), 2)
      else if oneCharSyms.contains c then (some (.sym (String.singleton c), none), 1)
      else (some (.bad, none), 1)

/-- Gives each parameter mark its position: a numbered mark its number, a named one the
position of its first use, a bare one the next after the largest so far. Each statement counts
afresh. -/
def numberMarks : List (Token × Option Mark) → Nat → List (String × Nat) → List Token
  | [], _, _ => []
  | (t, some m) :: rest, top, names =>
    let (i, names) := match m with
      | .next => (top + 1, names)
      | .numbered n => (n, names)
      | .named nm => match names.lookup nm with
        | some i => (i, names)
        | none => (top + 1, (nm, top + 1) :: names)
    { t with kind := .param (i - 1) } :: numberMarks rest (max top i) names
  | (t, none) :: rest, top, names =>
    if t.kind = .sym ";" then t :: numberMarks rest 0 []
    else t :: numberMarks rest top names

/-- Cuts text into tokens. -/
def tokenize (text : String) : List Token :=
  let cs := text.toList.takeWhile (· ≠ '\x00')
  numberMarks (go (cs.length + 1) cs [] []) 0 []
where
  go : Nat → List Char → List Char → List (Token × Option Mark) → List (Token × Option Mark)
    | 0, _, _, acc => acc.reverse
    | _ + 1, [], _, acc => acc.reverse
    | fuel + 1, cs, gap, acc =>
      let (tok, n) := nextToken cs
      let n := max n 1
      match tok with
      | some (k, m) =>
        let t : Token := { kind := k, text := String.ofList (cs.take n), gap := String.ofList gap.reverse }
        go fuel (cs.drop n) [] ((t, m) :: acc)
      | none => go fuel (cs.drop n) ((cs.take n).reverse ++ gap) acc

end PassPlan.Sql
