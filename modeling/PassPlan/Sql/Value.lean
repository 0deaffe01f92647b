import PassPlan.Sql.Numeric
/-!
Values of a SQL database cell: null, integers, reals, text and blobs. A column's declared type
gives it an affinity, which converts values as they are stored: text that reads wholly as a
number becomes one in numeric columns, numbers become text in text columns. Values sort null
first, then numbers by value, then text by a collation, then blobs by byte.
-/
namespace PassPlan.Sql

/-- A cell value. -/
inductive Value where
  | null
  | int (i : Int)
  | real (f : Float)
  | text (s : String)
  | blob (bytes : List Nat)
deriving Repr, Inhabited

/-- The conversion a column applies to the values stored in it. -/
inductive Affinity where
  | integer
  | text
  | blob
  | real
  | numeric
deriving DecidableEq, Repr, Inhabited

/-- Whether `needle` occurs in `s`. -/
def containsText (s needle : String) : Bool := (s.splitOn needle).length > 1

/-- Upper case for ASCII letters. -/
def asciiUpper (s : String) : String :=
  String.ofList (s.toList.map fun c => if 'a' ≤ c && c ≤ 'z' then Char.ofNat (c.toNat - 32) else c)

/-- Lower case for ASCII letters. -/
def asciiLower (s : String) : String :=
  String.ofList (s.toList.map fun c => if 'A' ≤ c && c ≤ 'Z' then Char.ofNat (c.toNat + 32) else c)

/-- The affinity of a declared type, by the words it contains: `INT` wins, then the text words,
then `BLOB`, then the real words; no type at all is a blob, anything else numeric. -/
def Affinity.ofType (declared : String) : Affinity :=
  let t := asciiUpper declared
  if containsText t "INT" then .integer
  else if containsText t "CHAR" || containsText t "CLOB" || containsText t "TEXT" then .text
  else if containsText t "BLOB" || t = "" then .blob
  else if containsText t "REAL" || containsText t "FLOA" || containsText t "DOUB" then .real
  else .numeric

/-- The affinity a type name gives a conversion: as for a column, except that no type at all
is numeric. -/
def Affinity.ofCast (declared : String) : Affinity :=
  if declared.isEmpty then .numeric else Affinity.ofType declared

/-- Whether an affinity converts text to numbers. -/
def Affinity.isNumeric : Affinity → Bool
  | .integer | .real | .numeric => true
  | _ => false

/-- How text compares: byte by byte, ignoring the case of ASCII letters, or ignoring trailing
spaces. -/
inductive Collation where
  | binary
  | nocase
  | rtrim
deriving DecidableEq, Repr, Inhabited

/-- The collation of a name, in any case. -/
def Collation.ofName? (n : String) : Option Collation :=
  match asciiUpper n with
  | "BINARY" => some .binary
  | "NOCASE" => some .nocase
  | "RTRIM" => some .rtrim
  | _ => none

/-- The bytes of a text. -/
def textBytes (s : String) : List Nat := s.toUTF8.toList.map (·.toNat)

/-- The text of some bytes: their characters when they are well-formed, else each byte as the
character of its number. -/
def bytesText (bs : List Nat) : String :=
  match String.fromUTF8? (ByteArray.mk (bs.map (·.toUInt8)).toArray) with
  | some s => s
  | none => String.ofList (bs.map Char.ofNat)

namespace Value

/-- The value as text: integers in decimal, reals as the database writes them. -/
def toText : Value → String
  | .null => ""
  | .int i => toString i
  | .real f => realText f
  | .text s => s
  | .blob bs => bytesText bs

/-- The value as bytes. -/
def toBytes : Value → List Nat
  | .blob bs => bs
  | v => textBytes v.toText

/-- The integer a conversion takes from a value: a real toward zero, text by its integer head. -/
def toInt : Value → Int
  | .null => 0
  | .int i => i
  | .real f => realToInt f
  | .text s => (readInt s).value
  | .blob bs => (readInt (bytesText bs)).value

/-- The real a conversion takes from a value: text by its numeric head. -/
def toReal : Value → Float
  | .null => 0
  | .int i => Float.ofInt i
  | .real f => f
  | .text s => (readReal s).value
  | .blob bs => (readReal (bytesText bs)).value

/-- The number text stands for in arithmetic: an integer when its integer reading is exact or
it reads as no number and its integer head fits, a real otherwise. -/
def numberOfText (s : String) : Value :=
  let r := readReal s
  let i := readInt s
  match r.fit with
  | .notNumber => if i.fit = .overflow then .real r.value else .int i.value
  | .integer => if i.fit = .exact then .int i.value else .real r.value
  | _ => .real r.value

/-- A value as an operand of arithmetic: null and numbers stay, text and blobs become numbers. -/
def numeric : Value → Value
  | .text s => numberOfText s
  | .blob bs => numberOfText (bytesText bs)
  | v => v

/-- Text that reads wholly as a number, as that number: an integer numeral that fits, or one
whose real value is a small whole number, becomes an integer; otherwise a real, which becomes
an integer when asked and when it is a small whole number. Other text stays. -/
def ofNumericText (tryInt : Bool) (s : String) : Value :=
  let r := readReal s
  let asReal : Value := match tryInt, realAsInt? r.value with
    | true, some i => .int i
    | _, _ => .real r.value
  match r.fit with
  | .integer =>
    match realAsInt? r.value with
    | some i => .int i
    | none =>
      let i := readInt s
      if i.fit = .exact then .int i.value else asReal
  | .fractional => asReal
  | _ => .text s

/-- Applies a column's affinity to a value being stored. -/
def withAffinity (a : Affinity) (v : Value) : Value :=
  match a, v with
  | .text, .int _ | .text, .real _ => .text v.toText
  | .real, .int i => .real (Float.ofInt i)
  | .real, .text s => match ofNumericText true s with
    | .int i => .real (Float.ofInt i)
    | x => x
  | .integer, .text s | .numeric, .text s => ofNumericText true s
  | .integer, .real f | .numeric, .real f => match realAsInt? f with
    | some i => .int i
    | none => v
  | _, v => v

/-- Converts text to a number for a comparison with numeric affinity. -/
def forNumericCompare : Value → Value
  | .text s => ofNumericText false s
  | v => v

/-- Converts a value to a number, as a cast to a numeric type without a kind does: the integer
when the text reads as one, or as a whole real that fits, otherwise the real. -/
def numerify : Value → Value
  | .text s => numerifyText s
  | .blob bs => numerifyText (bytesText bs)
  | v => v
where
  numerifyText (s : String) : Value :=
    let r := readReal s
    let i := readInt s
    if (r.fit = .notNumber || r.fit = .integer) && i.fit ≠ .overflow then .int i.value
    else match realAsInt? r.value with
      | some n => .int n
      | none => .real r.value

/-- Converts a value to a type, as a cast does. Null stays null. -/
def cast (a : Affinity) (v : Value) : Value :=
  match v with
  | .null => .null
  | _ =>
    match a with
    | .blob => .blob v.toBytes
    | .text => .text v.toText
    | .integer => .int v.toInt
    | .real => .real v.toReal
    | .numeric => v.numerify

/-- The class of a value in the sort order. -/
def rank : Value → Nat
  | .null => 0
  | .int _ | .real _ => 1
  | .text _ => 2
  | .blob _ => 3

/-- Compares two floats. -/
def compareFloat (a b : Float) : Ordering :=
  if a < b then .lt else if b < a then .gt else .eq

/-- Compares an integer with a real exactly. -/
def compareIntReal (i : Int) (r : Float) : Ordering :=
  if r.isNaN then .gt
  else if r < -9223372036854775808.0 then .gt
  else if r ≥ 9223372036854775808.0 then .lt
  else
    let y := realToInt r
    if i < y then .lt
    else if i > y then .gt
    else compareFloat (Float.ofInt i) r

/-- Text as a collation compares it. -/
def collated (c : Collation) (s : String) : String :=
  match c with
  | .binary => s
  | .nocase => asciiLower s
  | .rtrim => String.ofList (s.toList.reverse.dropWhile (· = ' ')).reverse

/-- The order of values: null, numbers by value, text by the collation, blobs by byte. -/
def compareWith (c : Collation) (a b : Value) : Ordering :=
  match a, b with
  | .int x, .int y => Ord.compare x y
  | .int x, .real y => compareIntReal x y
  | .real x, .int y => (compareIntReal y x).swap
  | .real x, .real y => compareFloat x y
  | .text x, .text y => Ord.compare (collated c x) (collated c y)
  | .blob x, .blob y => Ord.compare x y
  | a, b => Ord.compare a.rank b.rank

/-- The order of values with text compared byte by byte. -/
def compare (a b : Value) : Ordering := compareWith .binary a b

/-- Whether a value is null. -/
def isNull : Value → Bool
  | .null => true
  | _ => false

/-- The truth of a value in a condition: null is unknown, a number is true when it is not zero,
text and blobs by the real their numeric head reads as. -/
def truth : Value → Option Bool
  | .null => none
  | .int i => some (i ≠ 0)
  | .real f => some (f != 0)
  | v => some (v.toReal != 0)

/-- The name of the type of a value. -/
def typeName : Value → String
  | .null => "null"
  | .int _ => "integer"
  | .real _ => "real"
  | .text _ => "text"
  | .blob _ => "blob"

end Value
end PassPlan.Sql
