import PassPlan.Sql.Value
import PassPlan.Decimal.Format
import PassPlan.Text.Quoted
/-!
Reading result cells into typed fields. A cell that already has the field's type is taken as
it is; any other goes through its text, which must then read as the field's type. An integer is
written in decimal and a real in its shortest form. Failures name the column and say what could
not be converted to what.
-/
namespace PassPlan.History

open PassPlan.Sql

/-- The type of a field a cell is read into. -/
inductive Field where
  | text
  | int64
  | int
  | uint
deriving DecidableEq, Repr

/-- The name of a field type. -/
def Field.name : Field → String
  | .text => "string"
  | .int64 => "int64"
  | .int => "int"
  | .uint => "uint"

/-- The type name of a cell as conversions report it. -/
def cellType : Value → String
  | .null => "<nil>"
  | .int _ => "int64"
  | .real _ => "float64"
  | .text _ => "string"
  | .blob _ => "[]uint8"

/-- The text of a cell as conversions read it. -/
def cellText : Value → String
  | .null => ""
  | .int n => toString n
  | .real f => Decimal.gText f
  | .text s => s
  | .blob bs => String.ofList (bs.map Char.ofNat)

/-- The largest value of a signed 64-bit integer. -/
def int64Max : Int := 9223372036854775807

/-- Why a decimal text is not a number of a range. -/
inductive NumberProblem where
  | malformed
  | range

/-- The wording of a number problem. -/
def NumberProblem.text : NumberProblem → String
  | .malformed => "invalid syntax"
  | .range => "value out of range"

/-- Decimal digits without sign, read exactly. -/
def digitsValue (cs : List Char) : Option Nat :=
  if cs.isEmpty || !cs.all Char.isDigit then none
  else some (cs.foldl (fun n c => n * 10 + (c.toNat - 48)) 0)

/-- A signed decimal integer that fits in 64 bits. -/
def parseSigned (s : String) : Except NumberProblem Int :=
  let (neg, body) := match s.toList with
    | '-' :: rest => (true, rest)
    | '+' :: rest => (false, rest)
    | cs => (false, cs)
  match digitsValue body with
  | none => .error .malformed
  | some n =>
    let v : Int := if neg then -(n : Int) else n
    if v > int64Max || v < -int64Max - 1 then .error .range else .ok v

/-- An unsigned decimal integer that fits in 64 bits. -/
def parseUnsigned (s : String) : Except NumberProblem Int :=
  match digitsValue s.toList with
  | none => .error .malformed
  | some n => if n ≥ Nat.pow 2 64 then .error .range else .ok n

/-- Why a cell cannot be read into its field. -/
def conversionProblem (v : Value) (f : Field) (p : NumberProblem) : String :=
  "converting driver.Value type " ++ cellType v ++ " (" ++ Text.quote (cellText v) ++ ") to a " ++
    f.name ++ ": " ++ p.text

/-- A cell read as an integer field. -/
def readInt (f : Field) (v : Value) : Except String Int :=
  match v with
  | .null => .error ("converting NULL to " ++ f.name ++ " is unsupported")
  | .int n => if f = .uint && n < 0 then .error (conversionProblem v f .malformed) else .ok n
  | v =>
    let parse := if f = .uint then parseUnsigned else parseSigned
    (parse (cellText v)).mapError (conversionProblem v f)

/-- A cell read as a text field. -/
def readText (v : Value) : Except String String :=
  match v with
  | .null => .error "converting NULL to string is unsupported"
  | v => .ok (cellText v)

/-- A cell read as a text field that may be missing. -/
def readOptText (v : Value) : Except String (Option String) :=
  match v with
  | .null => .ok none
  | v => some <$> readText v

/-- A cell read as an integer field that may be missing. -/
def readOptInt (f : Field) (v : Value) : Except String (Option Int) :=
  match v with
  | .null => .ok none
  | v => some <$> readInt f v

/-- The truth a text spells: `1`, `t`, `true` and their capitalisations, or the false ones. -/
def truthOfText? (s : String) : Option Bool :=
  if ["1", "t", "T", "TRUE", "true", "True"].contains s then some true
  else if ["0", "f", "F", "FALSE", "false", "False"].contains s then some false
  else none

/-- A cell read as a truth value: the integers 0 and 1, or a text that spells one. -/
def readBool (v : Value) : Except String Bool :=
  match v with
  | .int n =>
    if n = 1 then .ok true else if n = 0 then .ok false
    else .error ("sql/driver: couldn't convert " ++ toString n ++ " into type bool")
  | .text _ | .blob _ =>
    let s := cellText v
    match truthOfText? s with
    | some b => .ok b
    | none => .error ("sql/driver: couldn't convert " ++ Text.quote s ++ " into type bool")
  | .real f => .error ("sql/driver: couldn't convert " ++ Decimal.gText f ++ " (float64) into type bool")
  | .null => .error "sql/driver: couldn't convert <nil> (<nil>) into type bool"

/-- A cell of a row by position with its column name, read by a reader; a failure names the
column. -/
def scanCell {α : Type} (row : List Value) (names : List String) (i : Nat)
    (read : Value → Except String α) : Except String α :=
  (read (row.getD i .null)).mapError fun m =>
    "sql: Scan error on column index " ++ toString i ++ ", name " ++ Text.quote (names.getD i "") ++
      ": " ++ m

end PassPlan.History
