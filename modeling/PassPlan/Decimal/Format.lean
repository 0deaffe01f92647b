import PassPlan.Decimal.Shortest
/-!
Decimal text of floating-point numbers. The general form uses the shortest digits and
switches to an exponent below 1e-4 and from 1e6 on; the data-interchange form switches below
1e-6 and from 1e21 on and writes short negative exponents with one digit; the fixed form
rounds the exact binary value to a number of places, a tie going to the even digit.
-/
namespace PassPlan.Decimal

/-- What a float is, for printing: not a number, an infinity, or a signed finite magnitude
with its shortest digits (none for zero). -/
inductive Shape where
  | nan
  | inf (neg : Bool)
  | finite (neg : Bool) (d : Digits)

/-- The shape of a float. -/
def shape (f : Float) : Shape :=
  let (neg, e, frac) := fields f
  if e = 2047 then (if frac = 0 then .inf neg else .nan)
  else if e = 0 && frac = 0 then .finite neg ⟨[], 0⟩
  else .finite neg (Binary.ofFields e frac).shortest

/-- The digit at a position, zero outside the list. -/
def digitAt (ds : List Nat) (i : Int) : Nat :=
  if i < 0 then 0 else ds.getD i.toNat 0

/-- The character of a decimal digit. -/
def digitChar (n : Nat) : Char := Char.ofNat ('0'.toNat + n)

/-- Positional notation with a number of places after the point. -/
def positional (d : Digits) (places : Nat) : String :=
  let whole : List Char :=
    if d.point > 0 then (List.range d.point.toNat).map fun (i : Nat) => digitChar (digitAt d.digits i)
    else ['0']
  let frac : List Char := (List.range places).map fun (i : Nat) => digitChar (digitAt d.digits (d.point + i))
  String.ofList (if places = 0 then whole else whole ++ '.' :: frac)

/-- Exponent notation with a number of digits after the first; the exponent has a sign and at
least two digits. -/
def exponential (d : Digits) (places : Nat) : String :=
  let first := digitChar (digitAt d.digits 0)
  let rest := (List.range places).map fun (i : Nat) => digitChar (digitAt d.digits (i + 1))
  let x : Int := if d.digits.isEmpty then 0 else d.point - 1
  let xs := Nat.toDigits 10 x.natAbs
  let xs := if xs.length < 2 then '0' :: xs else xs
  String.ofList ((if places = 0 then [first] else first :: '.' :: rest) ++
    'e' :: (if x < 0 then '-' else '+') :: xs)

/-- The sign in front of a negative number. -/
def signed (neg : Bool) (s : String) : String := if neg then "-" ++ s else s

/-- The general form: shortest digits, exponent notation when the decimal exponent is below -4
or at least 6. -/
def gText (f : Float) : String :=
  match shape f with
  | .nan => "NaN"
  | .inf neg => if neg then "-Inf" else "+Inf"
  | .finite neg d =>
    let n := d.digits.length
    let x := d.point - 1
    if !d.digits.isEmpty && (x < -4 || x ≥ 6) then signed neg (exponential d (n - 1))
    else signed neg (positional d (((n : Int) - d.point).toNat))

/-- The data-interchange form: positional from 1e-6 up to 1e21, exponent notation outside,
with a one-digit negative exponent written without its zero. -/
def jsonText (f : Float) : String :=
  match shape f with
  | .nan => "NaN"
  | .inf neg => if neg then "-Inf" else "+Inf"
  | .finite neg d =>
    let n := d.digits.length
    let x := d.point - 1
    if !d.digits.isEmpty && (x < -6 || x ≥ 21) then
      let s := exponential d (n - 1)
      let s := if -10 < x && x < 0 then s.replace "e-0" "e-" else s
      signed neg s
    else signed neg (positional d (((n : Int) - d.point).toNat))

/-- Rounds `num / den` to the nearest natural number, a tie to the even one. -/
def roundHalfEven (num den : Nat) : Nat :=
  let q := num / den
  let r := num % den
  if 2 * r > den then q + 1 else if 2 * r < den then q else if q % 2 = 0 then q else q + 1

/-- The fixed form with a number of places, from the exact binary value. -/
def fixedText (f : Float) (places : Nat) : String :=
  let (neg, e, frac) := fields f
  if e = 2047 then (if frac = 0 then (if neg then "-Inf" else "+Inf") else "NaN")
  else
    let x := Binary.ofFields e frac
    let num := x.mant * Nat.pow 2 x.exp.toNat * Nat.pow 10 places
    let den := Nat.pow 2 (-x.exp).toNat
    let n := roundHalfEven num den
    let ds := Nat.toDigits 10 n
    let ds := List.replicate (places + 1 - ds.length) '0' ++ ds
    let whole := ds.take (ds.length - places)
    let fracPart := ds.drop (ds.length - places)
    signed neg (String.ofList (if places = 0 then whole else whole ++ '.' :: fracPart))

/-- The positional form with as many places as the shortest digits need. -/
def shortestFixed (f : Float) : String :=
  match shape f with
  | .nan => "NaN"
  | .inf neg => if neg then "-Inf" else "+Inf"
  | .finite neg d => signed neg (positional d (((d.digits.length : Int) - d.point).toNat))

end PassPlan.Decimal
