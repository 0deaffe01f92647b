import PassPlan.Decimal.Format
import PassPlan.Decimal.Nearest
/-!
Numbers as the database writes and reads them.

A real is written with fifteen significant digits, rounded half up on its exact binary value:
positional while the decimal exponent lies in `-4 … 14`, in exponent notation with a sign and
at least two exponent digits otherwise, and always with a point and a digit after it (`0.3`,
`1.0`, `1.0e+21`, `1.0e-05`).

Text reads as a number by its longest numeric head after blanks. A real reading takes digits,
a point and an exponent; an integer reading takes digits only and saturates at the bounds of a
64-bit integer. Each reading also says how much of the text it used, since a conversion keeps
the text unless all of it is a number.
-/
namespace PassPlan.Sql

/-- The smallest integer a cell holds. -/
def minInt : Int := -(Nat.pow 2 63)

/-- The largest integer a cell holds. -/
def maxInt : Int := Nat.pow 2 63 - 1

/-- A 64-bit integer from any integer, by wrapping around. -/
def wrapInt (i : Int) : Int :=
  let m : Int := Nat.pow 2 64
  let r := i % m
  if r > maxInt then r - m else r

/-- The blanks around a number: space, tab, line feed, vertical tab, form feed and carriage
return. -/
def isBlank (c : Char) : Bool := c = ' ' || ('\t' ≤ c && c ≤ '\r')

/-- The digits of a positive magnitude rounded half up to fifteen significant places, with
trailing zeros dropped. -/
def fifteenDigits (x : Decimal.Binary) : Decimal.Digits :=
  let e := Decimal.decimalExponent x
  let n := (Decimal.floorDiv (2 * x.mant) x.exp (e - 14) + 1) / 2
  let (n, e) := if n ≥ Nat.pow 10 15 then (n / 10, e + 1) else (n, e)
  ⟨Decimal.trimZeros (Decimal.natDigits n), e + 1⟩

/-- The text of a real as the database writes it. -/
def realText (f : Float) : String :=
  let (neg, e, frac) := Decimal.fields f
  if e = 2047 then (if frac = 0 then (if neg then "-Inf" else "Inf") else "NaN")
  else if e = 0 && frac = 0 then "0.0"
  else
    let d := fifteenDigits (Decimal.Binary.ofFields e frac)
    let x := d.point - 1
    let body := if x < -4 || x > 14 then Decimal.exponential d (max 1 (d.digits.length - 1))
      else Decimal.positional d (max 1 ((d.digits.length : Int) - d.point).toNat)
    Decimal.signed neg body

/-- A sign in front of digits: whether it is a minus, and what follows it. -/
def readSign : List Char → Bool × List Char
  | '-' :: rest => (true, rest)
  | '+' :: rest => (false, rest)
  | cs => (false, cs)

/-- The value of decimal digits. -/
def digitsValue (ds : List Char) : Nat := ds.foldl (fun n c => n * 10 + (c.toNat - 48)) 0

/-- How much of a text a real reading used. -/
inductive RealFit where
  /-- All of it, blanks around it aside: an integer numeral. -/
  | integer
  /-- All of it: a numeral with a point or an exponent. -/
  | fractional
  /-- A numeral with a point or a complete exponent, then other text. -/
  | fractionalHead
  /-- No digits, an integer numeral followed by other text, or an exponent without digits. -/
  | notNumber
deriving DecidableEq, Repr

/-- A real reading: the value of the numeric head (zero when there is none) and how much of the
text it used. -/
structure RealReading where
  value : Float
  fit : RealFit

/-- The bound past which further digits of a significand are dropped. -/
def significandLimit : Nat := (Nat.pow 2 64 - 10) / 10

/-- Integer digits into a significand: digits are taken while the significand is below the
limit, and each one dropped after that raises the exponent. -/
def takeWhole (s : Nat) (d : Int) : List Char → Nat × Int
  | [] => (s, d)
  | c :: rest =>
    if s ≥ significandLimit then (s, d + 1 + rest.length)
    else takeWhole (s * 10 + (c.toNat - 48)) d rest

/-- Fraction digits into a significand: each digit taken while the significand is below the
limit lowers the exponent; later ones are dropped. -/
def takeFraction (s : Nat) (d : Int) : List Char → Nat × Int
  | [] => (s, d)
  | c :: rest =>
    if s < significandLimit then takeFraction (s * 10 + (c.toNat - 48)) (d - 1) rest
    else (s, d)

/-- Reads the numeric head of a text as a real. -/
def readReal (text : String) : RealReading :=
  let cs := text.toList.dropWhile isBlank
  let (neg, cs) := readSign cs
  let whole := cs.takeWhile Char.isDigit
  let cs := cs.dropWhile Char.isDigit
  let (point, frac, cs) := match cs with
    | '.' :: r => (true, r.takeWhile Char.isDigit, r.dropWhile Char.isDigit)
    | _ => (false, [], cs)
  let (hasExp, expOk, expo, cs) : Bool × Bool × Int × List Char := match cs with
    | e :: r =>
      if e = 'e' || e = 'E' then
        let (eneg, r) := readSign r
        let ds := r.takeWhile Char.isDigit
        let n : Int := min 10000 (digitsValue ds)
        (true, !ds.isEmpty, (if eneg then -n else n), r.dropWhile Char.isDigit)
      else (false, true, 0, cs)
    | [] => (false, true, 0, [])
  let rest := cs.dropWhile isBlank
  let hasDigits := !(whole.isEmpty && frac.isEmpty)
  let kind : Nat := 1 + (if point then 1 else 0) + (if hasExp then 1 else 0)
  let fit :=
    if rest.isEmpty && hasDigits && expOk then (if kind = 1 then RealFit.integer else .fractional)
    else if kind ≥ 2 && (kind = 3 || expOk) && hasDigits then .fractionalHead
    else .notNumber
  let (s, d) := takeWhole 0 0 whole
  let (s, d) := takeFraction s d frac
  let magnitude := if s = 0 then 0.0 else Decimal.ofDecimal s (expo + d)
  ⟨if neg then -magnitude else magnitude, fit⟩

/-- How much of a text an integer reading used. -/
inductive IntFit where
  /-- One integer in range, with nothing but blanks after it. -/
  | exact
  /-- An integer in range followed by other text, or no digits at all. -/
  | loose
  /-- An integer out of range; the value saturates. -/
  | overflow
deriving DecidableEq, Repr

/-- An integer reading: the value of the integer head and how much of the text it used. -/
structure IntReading where
  value : Int
  fit : IntFit

/-- Reads the integer head of a text: blanks, a sign, digits. -/
def readInt (text : String) : IntReading :=
  let cs := text.toList.dropWhile isBlank
  let (neg, cs) := readSign cs
  let ds := cs.takeWhile Char.isDigit
  let rest := cs.dropWhile Char.isDigit
  let n := digitsValue ds
  let limit := Nat.pow 2 63
  if n > limit || (n = limit && !neg) then ⟨if neg then minInt else maxInt, .overflow⟩
  else
    let v : Int := if neg then -(n : Int) else n
    ⟨v, if !ds.isEmpty && rest.all isBlank then .exact else .loose⟩

/-- A whole real from `-2^51` up to below `2^51`, or a zero, as the integer it equals. Only such
reals turn into integers, so that the integer reads back as the same real. -/
def realAsInt? (f : Float) : Option Int :=
  if f == 0 then some 0
  else if f.isNaN || f.isInf || f.floor != f then none
  else
    let bound : Float := 2251799813685248.0
    if f < -bound || f ≥ bound then none
    else if f < 0 then some (-((-f).toUInt64.toNat : Int)) else some (f.toUInt64.toNat : Int)

/-- A real as an integer the way a conversion takes it: toward zero, saturating at the bounds. -/
def realToInt (f : Float) : Int :=
  if f.isNaN then 0
  else if f ≤ -9223372036854775808.0 then minInt
  else if f ≥ 9223372036854775808.0 then maxInt
  else if f < 0 then -((-f).toUInt64.toNat : Int) else (f.toUInt64.toNat : Int)

end PassPlan.Sql
