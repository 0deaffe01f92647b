import PassPlan.Sql.Syntax
import PassPlan.Sql.Token
/-!
Reading expressions and queries from tokens, by recursive descent over the operator levels of
the dialect: OR, AND, NOT, the equality-like tests (`=`, `IS`, `IN`, `LIKE`, `BETWEEN`, null
tests), the orderings, the bit operators, sums, products, concatenation, collation and the
signs. A token the grammar cannot take is reported as a syntax error near it, an illegal token
as unrecognized, and text that stops inside a statement as incomplete.

Words are keywords or names. The reserved words never name anything; the join words name
columns and tables but are never aliases; every other keyword also serves as a name where no
keyword is expected.
-/
namespace PassPlan.Sql

/-- Why SQL text cannot be read. -/
inductive ParseError where
  | near (token : String)
  | incomplete
  | unrecognized (token : String)
  /-- A statement that reads but breaks a rule of the grammar. -/
  | other (message : String)
deriving DecidableEq, Repr

/-- The message of a reading failure. -/
def ParseError.message : ParseError → String
  | .near t => "near \"" ++ t ++ "\": syntax error"
  | .incomplete => "incomplete input"
  | .unrecognized t => "unrecognized token: \"" ++ t ++ "\""
  | .other m => m

/-- Reading tokens. -/
abbrev ParseM := StateT (List Token) (Except ParseError)

namespace ParseM

/-- The next token, if any. -/
def peek : ParseM (Option Token) := do return (← get).head?

/-- The token after the next. -/
def peek2 : ParseM (Option Token) := do return ((← get).drop 1).head?

/-- Drops the next token. -/
def advance : ParseM Unit := modify (·.drop 1)

/-- Fails at the next token: an illegal token is unrecognized, the end of the text leaves the
statement incomplete, any other token is a syntax error near it. -/
def fail {α : Type} : ParseM α := do
  match (← peek) with
  | some t => if t.kind = .bad then throw (.unrecognized t.text) else throw (.near t.text)
  | none => throw .incomplete

/-- Whether a token is a given keyword, in any case. -/
def isWord (t : Token) (k : String) : Bool :=
  match t.kind with
  | .word w => asciiUpper w = k
  | _ => false

/-- Takes a keyword if it comes next. -/
def kw (k : String) : ParseM Bool := do
  match (← peek) with
  | some t => if isWord t k then advance; return true else return false
  | none => return false

/-- Requires a keyword. -/
def expectKw (k : String) : ParseM Unit := do
  if !(← kw k) then fail

/-- Whether a token is a given operator. -/
def isSym (t : Token) (s : String) : Bool := t.kind = .sym s

/-- Takes an operator if it comes next. -/
def sym (s : String) : ParseM Bool := do
  match (← peek) with
  | some t => if isSym t s then advance; return true else return false
  | none => return false

/-- Requires an operator. -/
def expectSym (s : String) : ParseM Unit := do
  if !(← sym s) then fail

/-- Whether the next token is a keyword. -/
def atKw (k : String) : ParseM Bool := do
  match (← peek) with
  | some t => return isWord t k
  | none => return false

/-- Whether the next token is an operator. -/
def atSym (s : String) : ParseM Bool := do
  match (← peek) with
  | some t => return isSym t s
  | none => return false

end ParseM

open PassPlan.Sql.ParseM

/-- The words that never name anything. -/
def reservedWords : List String :=
  ["ADD", "ALL", "ALTER", "AND", "AS", "AUTOINCREMENT", "BETWEEN", "CASE", "CHECK", "COLLATE",
    "COMMIT", "CONSTRAINT", "CREATE", "DEFAULT", "DEFERRABLE", "DELETE", "DISTINCT", "DROP",
    "ELSE", "ESCAPE", "EXCEPT", "EXISTS", "FOREIGN", "FROM", "GROUP", "HAVING", "IN", "INDEX",
    "INSERT", "INTERSECT", "INTO", "IS", "ISNULL", "JOIN", "LIMIT", "NOT", "NOTHING", "NOTNULL",
    "NULL", "ON", "OR", "ORDER", "PRIMARY", "REFERENCES", "RETURNING", "SELECT", "SET", "TABLE",
    "THEN", "TO", "TRANSACTION", "UNION", "UNIQUE", "UPDATE", "USING", "VALUES", "WHEN", "WHERE"]

/-- The words that say how tables join; they name things but are never aliases. -/
def joinWords : List String := ["CROSS", "FULL", "INNER", "LEFT", "NATURAL", "OUTER", "RIGHT"]

/-- Whether a word is reserved. -/
def isReserved (w : String) : Bool := reservedWords.contains (asciiUpper w)

/-- A name: a word that is not reserved, a quoted name or a string. -/
def nameP : ParseM String := do
  match (← peek) with
  | some t =>
    match t.kind with
    | .word w => if isReserved w then fail else do advance; return w
    | .quoted q => advance; return q
    | .str s => advance; return s
    | _ => fail
  | none => fail

/-- Whether a token can be an alias: a word that is neither reserved nor a join word, a quoted
name or a string. -/
def isAliasToken (t : Token) : Bool :=
  match t.kind with
  | .word w => !isReserved w && !joinWords.contains (asciiUpper w)
  | .quoted _ | .str _ => true
  | _ => false

/-- An alias: after `AS` any name, else a token that can be an alias. -/
def aliasP : ParseM (Option String) := do
  if (← kw "AS") then return some (← nameP)
  match (← peek) with
  | some t => if isAliasToken t then some <$> nameP else return none
  | none => return none

/-- A name that may be qualified by a schema, keeping the last part. -/
def qualifiedName : ParseM String := do
  let n ← nameP
  if (← atSym ".") then
    advance
    nameP
  else return n

/-- A number literal after its digit separators are taken out: each separator must stand
between two digits (hex digits after `0x`). The text a complaint shows is the literal as it is
being rewritten, so a later complaint shows the digits already moved. -/
def withoutSeparators (text : String) : Except ParseError String :=
  let cs := text.toList
  let hex := match cs with
    | '0' :: x :: _ => x = 'x' || x = 'X'
    | _ => false
  let ok (c : Option Char) : Bool := match c with
    | some c => if hex then isHexDigit c else c.isDigit
    | none => false
  let rec go : Nat → List Char → Option Char → List Char → Option String → List Char × Option String
    | 0, _, _, out, err => (out.reverse, err)
    | _ + 1, [], _, out, err => (out.reverse, err)
    | fuel + 1, c :: rest, prev, out, err =>
      if c = '_' then
        if ok prev && ok rest.head? then go fuel rest (some c) out err
        else
          let shown := String.ofList (out.reverse ++ cs.drop out.length)
          go fuel rest (some c) out (some shown)
      else go fuel rest (some c) (c :: out) err
  match go (cs.length + 1) cs none [] none with
  | (_, some shown) => .error (.unrecognized shown)
  | (out, none) => .ok (String.ofList out)

/-- The value of a number literal, negated when a minus stands right before it. An integer
that does not fit is a real; a hexadecimal one that does not fit in 64 bits is refused. -/
def numberLiteral (raw : String) (negated : Bool) : Except ParseError Value := do
  let text ← if raw.contains '_' then withoutSeparators raw else pure raw
  let cs := text.toList
  match cs with
  | '0' :: x :: hexDigits =>
    if x = 'x' || x = 'X' then
      let significant := hexDigits.dropWhile (· = '0')
      let u := hexDigits.foldl (fun n c => n * 16 + hexValue c) 0
      let v := wrapInt u
      if significant.length > 16 || (negated && v = minInt) then
        throw (.other ("hex literal too big: " ++ (if negated then "-" else "") ++ text))
      return .int (if negated then -v else v)
    else decimal text cs
  | _ => decimal text cs
where
  decimal (text : String) (cs : List Char) : Except ParseError Value :=
    let real := readReal text
    let realValue : Value := .real (if negated then -real.value else real.value)
    if cs.any (fun c => c = '.' || c = 'e' || c = 'E') then .ok realValue
    else
      let n := digitsValue cs
      let limit := Nat.pow 2 63
      if n < limit then .ok (.int (if negated then -(n : Int) else n))
      else if n = limit && negated then .ok (.int minInt)
      else .ok realValue

/-- The join a run of join words names, or the complaint about it. -/
def joinKind (words : List String) : Except ParseError (JoinKind × Bool) :=
  let codes : List (String × List String) :=
    [("NATURAL", ["natural"]), ("LEFT", ["left", "outer"]), ("OUTER", ["outer"]),
      ("RIGHT", ["right", "outer"]), ("FULL", ["left", "right", "outer"]), ("INNER", ["inner"]),
      ("CROSS", ["inner", "cross"])]
  let found := words.map fun w => codes.lookup (asciiUpper w)
  let flags := (found.filterMap id).flatten
  let has (f : String) := flags.contains f
  let bad := found.any (·.isNone) || (has "inner" && has "outer") ||
    (has "outer" && !has "left" && !has "right")
  if bad then .error (.other ("unknown join type: " ++ " ".intercalate words))
  else
    let kind := if has "left" && has "right" then JoinKind.full
      else if has "left" then .left
      else if has "right" then .right
      else if has "cross" then .cross
      else .inner
    .ok (kind, has "natural")

/-- Lifts a result into reading. -/
def liftParse {α : Type} (r : Except ParseError α) : ParseM α :=
  match r with
  | .ok a => pure a
  | .error e => throw e

/-- The words of a type name, up to its size in parentheses, which is read and dropped; the
words are joined by single spaces. -/
def typeNameP : ParseM String := do
  let rec words : Nat → List String → ParseM (List String)
    | 0, acc => pure acc
    | k + 1, acc => do
      match (← peek) with
      | some t =>
        match t.kind with
        | .word w =>
          if isReserved w || joinWords.contains (asciiUpper w) then pure acc
          else do advance; words k (acc ++ [w])
        | .str s => do advance; words k (acc ++ [s])
        | _ => pure acc
      | none => pure acc
  let ws ← words 64 []
  if !ws.isEmpty && (← sym "(") then
    let signed : ParseM Unit := do
      let _ ← sym "+"
      let _ ← sym "-"
      match (← peek) with
      | some t => match t.kind with
        | .num _ => advance
        | .word _ => let _ ← nameP
        | _ => fail
      | none => fail
    signed
    if (← sym ",") then signed
    expectSym ")"
  return " ".intercalate ws

/-- The text of the tokens an expression was read from, with the blanks and comments up to the
token after it, trimmed of blanks. -/
def sourceOf (before after : List Token) : String :=
  let used := before.take (before.length - after.length)
  let tail := (after.head?.map (·.gap)).getD ""
  let raw := String.join (used.map fun t => t.gap ++ t.text) ++ tail
  let cs := raw.toList.dropWhile isBlank
  String.ofList (cs.reverse.dropWhile isBlank).reverse

/-- A name and whether it was written in double quotes. -/
def namePart : ParseM (String × Bool) := do
  let dq := ((← peek).map (·.text.startsWith "\"")).getD false
  return (← nameP, dq)

mutual
/-- An expression: disjunctions. -/
def exprP : Nat → ParseM Expr
  | 0 => fail
  | n + 1 => do
    let lhs ← andP n
    orRest n lhs

/-- More disjuncts. -/
def orRest : Nat → Expr → ParseM Expr
  | 0, _ => fail
  | n + 1, lhs => do
    if (← kw "OR") then orRest n (.binary .or lhs (← andP n)) else return lhs

/-- Conjunctions. -/
def andP : Nat → ParseM Expr
  | 0 => fail
  | n + 1 => do
    let lhs ← notP n
    andRest n lhs

/-- More conjuncts. -/
def andRest : Nat → Expr → ParseM Expr
  | 0, _ => fail
  | n + 1, lhs => do
    if (← kw "AND") then andRest n (.binary .and lhs (← notP n)) else return lhs

/-- Negations. -/
def notP : Nat → ParseM Expr
  | 0 => fail
  | n + 1 => do
    if (← kw "NOT") then return .unary .not (← notP n) else equalP n

/-- Equality-like tests. -/
def equalP : Nat → ParseM Expr
  | 0 => fail
  | n + 1 => do
    let lhs ← compareP n
    equalRest n lhs

/-- More equality-like tests, left to right. -/
def equalRest : Nat → Expr → ParseM Expr
  | 0, _ => fail
  | n + 1, lhs => do
    if (← sym "=") then equalRest n (.binary .eq lhs (← compareP n))
    else if (← sym "!=") || (← sym "<>") then equalRest n (.binary .ne lhs (← compareP n))
    else if (← kw "ISNULL") then equalRest n (.isNull lhs false)
    else if (← kw "NOTNULL") then equalRest n (.isNull lhs true)
    else if (← kw "IS") then
      let negated ← kw "NOT"
      if (← kw "DISTINCT") then
        expectKw "FROM"
        let rhs ← compareP n
        equalRest n (.binary (if negated then .is else .isNot) lhs rhs)
      else
        let rhs ← compareP n
        equalRest n (.binary (if negated then .isNot else .is) lhs rhs)
    else if (← atKw "NOT") then
      match (← peek2) with
      | some t =>
        if isWord t "NULL" then
          advance; advance
          equalRest n (.isNull lhs true)
        else if ["IN", "LIKE", "GLOB", "BETWEEN", "REGEXP", "MATCH"].any (isWord t) then
          advance
          equalRest n (← testP n lhs true)
        else return lhs
      | none => return lhs
    else if (← peek).any (fun t => ["IN", "LIKE", "GLOB", "BETWEEN", "REGEXP", "MATCH"].any (isWord t)) then
      equalRest n (← testP n lhs false)
    else return lhs

/-- A membership, pattern or range test after its left side. -/
def testP : Nat → Expr → Bool → ParseM Expr
  | 0, _, _ => fail
  | n + 1, lhs, negated => do
    if (← kw "IN") then inP n lhs negated
    else if (← kw "BETWEEN") then
      let lo ← compareP n
      expectKw "AND"
      let hi ← compareP n
      return .between lhs lo hi negated
    else
      let op ← match (← peek) with
        | some t => do advance; pure (asciiLower (match t.kind with | .word w => w | _ => ""))
        | none => fail
      let pattern ← compareP n
      let escape ← if (← kw "ESCAPE") then some <$> compareP n else pure none
      if op = "like" then return .like false lhs pattern escape negated
      else if op = "glob" then return .like true lhs pattern escape negated
      else
        let e : Expr := .call op [pattern, lhs] false false
        return if negated then .unary .not e else e

/-- The list or query of a membership test. -/
def inP : Nat → Expr → Bool → ParseM Expr
  | 0, _, _ => fail
  | n + 1, lhs, negated => do
    if (← sym "(") then
      if (← atKw "SELECT") || (← atKw "VALUES") || (← atKw "WITH") then
        let q ← selectP n
        expectSym ")"
        return .inSelect lhs q negated
      else if (← sym ")") then return .inList lhs [] negated
      else
        let items ← listP n
        expectSym ")"
        return .inList lhs items negated
    else
      let t ← qualifiedName
      let q : Select := .mk [] (.query false [.star] [.mk .inner false (.table t none) none []] none [] none) [] [] none none
      return .inSelect lhs q negated

/-- Expressions separated by commas. -/
def listP : Nat → ParseM (List Expr)
  | 0 => fail
  | n + 1 => do
    let e ← exprP n
    if (← sym ",") then return e :: (← listP n) else return [e]

/-- Orderings. -/
def compareP : Nat → ParseM Expr
  | 0 => fail
  | n + 1 => do
    let lhs ← bitP n
    compareRest n lhs

/-- More orderings. -/
def compareRest : Nat → Expr → ParseM Expr
  | 0, _ => fail
  | n + 1, lhs => do
    if (← sym "<") then compareRest n (.binary .lt lhs (← bitP n))
    else if (← sym "<=") then compareRest n (.binary .le lhs (← bitP n))
    else if (← sym ">") then compareRest n (.binary .gt lhs (← bitP n))
    else if (← sym ">=") then compareRest n (.binary .ge lhs (← bitP n))
    else return lhs

/-- Bit operations. -/
def bitP : Nat → ParseM Expr
  | 0 => fail
  | n + 1 => do
    let lhs ← addP n
    bitRest n lhs

/-- More bit operations. -/
def bitRest : Nat → Expr → ParseM Expr
  | 0, _ => fail
  | n + 1, lhs => do
    if (← sym "&") then bitRest n (.binary .bitAnd lhs (← addP n))
    else if (← sym "|") then bitRest n (.binary .bitOr lhs (← addP n))
    else if (← sym "<<") then bitRest n (.binary .shl lhs (← addP n))
    else if (← sym ">>") then bitRest n (.binary .shr lhs (← addP n))
    else return lhs

/-- Sums. -/
def addP : Nat → ParseM Expr
  | 0 => fail
  | n + 1 => do
    let lhs ← mulP n
    addRest n lhs

/-- More terms. -/
def addRest : Nat → Expr → ParseM Expr
  | 0, _ => fail
  | n + 1, lhs => do
    if (← sym "+") then addRest n (.binary .add lhs (← mulP n))
    else if (← sym "-") then addRest n (.binary .sub lhs (← mulP n))
    else return lhs

/-- Products. -/
def mulP : Nat → ParseM Expr
  | 0 => fail
  | n + 1 => do
    let lhs ← concatP n
    mulRest n lhs

/-- More factors. -/
def mulRest : Nat → Expr → ParseM Expr
  | 0, _ => fail
  | n + 1, lhs => do
    if (← sym "*") then mulRest n (.binary .mul lhs (← concatP n))
    else if (← sym "/") then mulRest n (.binary .div lhs (← concatP n))
    else if (← sym "%") then mulRest n (.binary .rem lhs (← concatP n))
    else return lhs

/-- Concatenations and extractions. -/
def concatP : Nat → ParseM Expr
  | 0 => fail
  | n + 1 => do
    let lhs ← collateP n
    concatRest n lhs

/-- More concatenated parts. -/
def concatRest : Nat → Expr → ParseM Expr
  | 0, _ => fail
  | n + 1, lhs => do
    if (← sym "||") then concatRest n (.binary .concat lhs (← collateP n))
    else if (← sym "->") then concatRest n (.binary .extract lhs (← collateP n))
    else if (← sym "->>") then concatRest n (.binary .extractText lhs (← collateP n))
    else return lhs

/-- Collations after an operand. -/
def collateP : Nat → ParseM Expr
  | 0 => fail
  | n + 1 => do
    let e ← unaryP n
    collateRest n e

/-- More collations. -/
def collateRest : Nat → Expr → ParseM Expr
  | 0, _ => fail
  | n + 1, e => do
    if (← kw "COLLATE") then collateRest n (.collate e (← nameP)) else return e

/-- Signs and bit complements; a minus right before a number makes a negative literal. -/
def unaryP : Nat → ParseM Expr
  | 0 => fail
  | n + 1 => do
    if (← sym "-") then
      match (← peek) with
      | some { kind := .num raw, .. } =>
        advance
        return .lit (← liftParse (numberLiteral raw true))
      | _ => return .unary .neg (← unaryP n)
    else if (← sym "+") then return .unary .plus (← unaryP n)
    else if (← sym "~") then return .unary .bitNot (← unaryP n)
    else if (← atKw "NOT") then
      advance
      return .unary .not (← unaryP n)
    else primaryP n

/-- Literals, parameters, columns, calls, subqueries, conversions, choices, raises and
parenthesised expressions. -/
def primaryP : Nat → ParseM Expr
  | 0 => fail
  | n + 1 => do
    let some t ← peek | fail
    match t.kind with
    | .num raw => advance; return .lit (← liftParse (numberLiteral raw false))
    | .str s => advance; return .lit (.text s)
    | .blob bs => advance; return .lit (.blob bs)
    | .param i => advance; return .param i
    | .quoted q => advance; columnRest n q (t.text.startsWith "\"")
    | .sym "(" =>
      advance
      if (← atKw "SELECT") || (← atKw "VALUES") || (← atKw "WITH") then
        let q ← selectP n
        expectSym ")"
        return .scalar q
      let items ← listP n
      expectSym ")"
      match items with
      | [e] => return e
      | es => return .row es
    | .word w =>
      let up := asciiUpper w
      if up = "NULL" then advance; return .lit .null
      else if up = "CASE" then advance; caseP n
      else if up = "CAST" then
        advance
        expectSym "("
        let e ← exprP n
        expectKw "AS"
        let ty ← typeNameP
        expectSym ")"
        return .cast e ty
      else if up = "EXISTS" then
        advance
        expectSym "("
        let q ← selectP n
        expectSym ")"
        return .exists q
      else if up = "RAISE" then
        advance
        expectSym "("
        let kind ← if (← kw "IGNORE") then pure RaiseKind.ignore
          else if (← kw "ROLLBACK") then pure .rollback
          else if (← kw "ABORT") then pure .abort
          else if (← kw "FAIL") then pure .fail
          else fail
        if kind = .ignore then
          expectSym ")"
          return .raise kind ""
        expectSym ","
        let msg ← nameP
        expectSym ")"
        return .raise kind msg
      else if up = "CURRENT_TIME" || up = "CURRENT_DATE" || up = "CURRENT_TIMESTAMP" then
        advance
        return .call (asciiLower w) [] false false
      else if isReserved w then fail
      else
        advance
        if (← sym "(") then
          if (← sym ")") then return .call w [] false false
          if (← sym "*") then
            expectSym ")"
            return .call w [] false true
          let distinct ← kw "DISTINCT"
          if !distinct then let _ ← kw "ALL"
          let args ← listP n
          expectSym ")"
          return .call w args distinct false
        else columnRest n w false
    | _ => fail

/-- A name in an expression, with the names that qualify it: the last name is the column, the
one before it the table. -/
def columnRest : Nat → String → Bool → ParseM Expr
  | 0, _, _ => fail
  | _ + 1, first, quoted => do
    if (← sym ".") then
      let (second, q2) ← namePart
      if (← sym ".") then
        let (third, q3) ← namePart
        return .column (some second) third q3
      return .column (some first) second q2
    return .column none first quoted

/-- The rest of a choice after `CASE`. -/
def caseP : Nat → ParseM Expr
  | 0 => fail
  | n + 1 => do
    let operand ← if (← atKw "WHEN") then pure none else some <$> exprP n
    let arms ← armsP n
    if arms.isEmpty then fail
    let otherwise ← if (← kw "ELSE") then some <$> exprP n else pure none
    expectKw "END"
    return .case operand arms otherwise

/-- The arms of a choice. -/
def armsP : Nat → ParseM (List (Expr × Expr))
  | 0 => fail
  | n + 1 => do
    if (← kw "WHEN") then
      let c ← exprP n
      expectKw "THEN"
      let r ← exprP n
      return (c, r) :: (← armsP n)
    else return []

/-- A query: cores joined by compound operators, with an ordering and limits. -/
def selectP : Nat → ParseM Select
  | 0 => fail
  | n + 1 => do
    let named ← if (← kw "WITH") then do let _ ← kw "RECURSIVE"; commonTablesP n else pure []
    let first ← coreP n
    let rest ← compoundP n
    let orderBy ← if (← kw "ORDER") then do expectKw "BY"; orderP n else pure []
    let (limit, offset) ← if (← kw "LIMIT") then do
        let a ← exprP n
        if (← kw "OFFSET") then pure (some a, some (← exprP n))
        else if (← sym ",") then pure (some (← exprP n), some a)
        else pure (some a, none)
      else pure (none, none)
    return .mk named first rest orderBy limit offset

/-- The queries of a WITH clause: each a name, optional column names, and a query in
parentheses, separated by commas. -/
def commonTablesP : Nat → ParseM (List CommonTable)
  | 0 => fail
  | n + 1 => do
    let name ← nameP
    let cols ← if (← sym "(") then do
        let ns ← namesP n
        expectSym ")"
        pure ns
      else pure []
    expectKw "AS"
    if (← kw "NOT") then expectKw "MATERIALIZED" else let _ ← kw "MATERIALIZED"
    expectSym "("
    let q ← selectP n
    expectSym ")"
    let t := CommonTable.mk name cols q
    if (← sym ",") then return t :: (← commonTablesP n) else return [t]

/-- The cores after the first, each with its compound operator. -/
def compoundP : Nat → ParseM (List (CompoundOp × Core))
  | 0 => fail
  | n + 1 => do
    let op ← if (← kw "UNION") then (do if (← kw "ALL") then pure (some CompoundOp.unionAll) else pure (some .union))
      else if (← kw "INTERSECT") then pure (some .intersect)
      else if (← kw "EXCEPT") then pure (some .except)
      else pure none
    match op with
    | none => return []
    | some op =>
      let c ← coreP n
      return (op, c) :: (← compoundP n)

/-- One core: a selection or a list of rows. -/
def coreP : Nat → ParseM Core
  | 0 => fail
  | n + 1 => do
    if (← kw "VALUES") then return .values (← rowsP n)
    expectKw "SELECT"
    let distinct ← kw "DISTINCT"
    if !distinct then let _ ← kw "ALL"
    let cols ← resultsP n
    let source ← if (← kw "FROM") then sourcesP n else pure []
    let filter ← if (← kw "WHERE") then some <$> exprP n else pure none
    let groupBy ← if (← kw "GROUP") then do expectKw "BY"; listP n else pure []
    let having ← if (← kw "HAVING") then some <$> exprP n else pure none
    return .query distinct cols source filter groupBy having

/-- Rows of values in parentheses, separated by commas. -/
def rowsP : Nat → ParseM (List (List Expr))
  | 0 => fail
  | n + 1 => do
    expectSym "("
    let row ← listP n
    expectSym ")"
    if (← sym ",") then return row :: (← rowsP n) else return [row]

/-- The result columns of a query. -/
def resultsP : Nat → ParseM (List ResultColumn)
  | 0 => fail
  | n + 1 => do
    let col ← if (← sym "*") then pure ResultColumn.star
      else
        match (← peek), (← peek2) with
        | some t, some dot =>
          let named := match t.kind with
            | .word w => !isReserved w
            | .quoted _ => true
            | _ => false
          if named && isSym dot "." && (((← get).drop 2).head?.map (isSym · "*")).getD false then do
            let tbl ← nameP
            advance
            advance
            pure (ResultColumn.tableStar tbl)
          else resultP n
        | _, _ => resultP n
    if (← sym ",") then return col :: (← resultsP n) else return [col]

/-- A result expression with its name and the text it was written as. -/
def resultP : Nat → ParseM ResultColumn
  | 0 => fail
  | n + 1 => do
    let before ← get
    let e ← exprP n
    let after ← get
    return .expr e (← aliasP) (sourceOf before after)

/-- The items of a FROM clause with their joins. -/
def sourcesP : Nat → ParseM (List Source)
  | 0 => fail
  | n + 1 => do
    let first ← sourceItemP n
    let (on, usingColumns) ← constraintP n
    let rest ← joinsP n
    return .mk .inner false first on usingColumns :: rest

/-- The items after the first, each with how it joins. -/
def joinsP : Nat → ParseM (List Source)
  | 0 => fail
  | n + 1 => do
    let join ← if (← sym ",") then pure (some (JoinKind.inner, false))
      else if (← kw "JOIN") then pure (some (JoinKind.inner, false))
      else
        match (← peek) with
        | some t =>
          match t.kind with
          | .word w =>
            if joinWords.contains (asciiUpper w) then do
              advance
              let rec more : Nat → List String → ParseM (List String)
                | 0, acc => pure acc
                | k + 1, acc => do
                  if (← kw "JOIN") then pure acc
                  else if acc.length ≥ 3 then fail
                  else more k (acc ++ [← nameP])
              let words ← more 4 [w]
              some <$> liftParse (joinKind words)
            else pure none
          | _ => pure none
        | none => pure none
    match join with
    | none => return []
    | some (kind, natural) =>
      let item ← sourceItemP n
      let (on, usingColumns) ← constraintP n
      return .mk kind natural item on usingColumns :: (← joinsP n)

/-- The condition of a join: `ON` an expression or `USING` some columns. -/
def constraintP : Nat → ParseM (Option Expr × List String)
  | 0 => fail
  | n + 1 => do
    if (← kw "ON") then return (some (← exprP n), [])
    else if (← kw "USING") then
      expectSym "("
      let cols ← namesP n
      expectSym ")"
      return (none, cols)
    else return (none, [])

/-- Names separated by commas. -/
def namesP : Nat → ParseM (List String)
  | 0 => fail
  | n + 1 => do
    let nm ← nameP
    if (← sym ",") then return nm :: (← namesP n) else return [nm]

/-- A table or a subquery in a FROM clause, with its alias. -/
def sourceItemP : Nat → ParseM SourceItem
  | 0 => fail
  | n + 1 => do
    if (← sym "(") then
      if (← atKw "SELECT") || (← atKw "VALUES") || (← atKw "WITH") then
        let q ← selectP n
        expectSym ")"
        return .query q (← aliasP)
      else fail
    let t ← qualifiedName
    let label ← aliasP
    if (← kw "INDEXED") then
      expectKw "BY"
      let _ ← nameP
    else if (← atKw "NOT") then
      match (← peek2) with
      | some t2 => if isWord t2 "INDEXED" then do advance; advance
      | none => pure ()
    return .table t label

/-- The terms of an ordering. -/
def orderP : Nat → ParseM (List OrderTerm)
  | 0 => fail
  | n + 1 => do
    let e ← exprP n
    let desc ← if (← kw "DESC") then pure true else do let _ ← kw "ASC"; pure false
    let nulls ← if (← kw "NULLS") then
        (if (← kw "FIRST") then pure (some true) else do expectKw "LAST"; pure (some false))
      else pure none
    let term := OrderTerm.mk e desc nulls
    if (← sym ",") then return term :: (← orderP n) else return [term]
end

end PassPlan.Sql
