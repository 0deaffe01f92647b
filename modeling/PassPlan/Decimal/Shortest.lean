/-!
The shortest decimal for a binary floating-point number. A finite number is `m · 2^q`; every
real in the interval around it that rounds back to it is a candidate (the ends count when `m`
is even). For 1, 2, … 17 significant digits the two grid points around the value are tested
in exact natural-number arithmetic; the first digit count with a hit wins, the nearer of two
hits, and of two equally near the one with an even last digit.
-/
namespace PassPlan.Decimal

/-- A finite positive binary number `mant · 2^exp` with the sides of its rounding interval. -/
structure Binary where
  mant : Nat
  exp : Int
  /-- The interval below is half as wide, at a power of two. -/
  narrowBelow : Bool
deriving Repr

/-- Digits and the place of the decimal point: the value is `0.d₁d₂… · 10^point`. -/
structure Digits where
  digits : List Nat
  point : Int
deriving Repr, DecidableEq

/-- Sign, biased exponent and fraction of a float. -/
def fields (f : Float) : Bool × Nat × Nat :=
  let b := f.toBits.toNat
  (b / Nat.pow 2 63 % 2 == 1, b / Nat.pow 2 52 % 2048, b % Nat.pow 2 52)

/-- The binary form of a finite nonzero magnitude given by its exponent and fraction fields. -/
def Binary.ofFields (e frac : Nat) : Binary :=
  if e = 0 then ⟨frac, -1074, false⟩
  else ⟨frac + Nat.pow 2 52, (e : Int) - 1075, frac = 0 && e > 1⟩

/-- Compares `a · 10^i · 2^j` with `b · 10^k · 2^l` exactly. -/
def cmpScaled (a : Nat) (i j : Int) (b : Nat) (k l : Int) : Ordering :=
  let ten := i - k
  let two := j - l
  let lhs := a * Nat.pow 10 ten.toNat * Nat.pow 2 two.toNat
  let rhs := b * Nat.pow 10 (-ten).toNat * Nat.pow 2 (-two).toNat
  compare lhs rhs

/-- `⌊mant · 2^exp / 10^k⌋`. -/
def floorDiv (mant : Nat) (exp k : Int) : Nat :=
  mant * Nat.pow 2 exp.toNat * Nat.pow 10 (-k).toNat / (Nat.pow 2 (-exp).toNat * Nat.pow 10 k.toNat)

/-- The bit length of a number. -/
def bitLength (n : Nat) : Nat := (Nat.toDigits 2 n).length

/-- The decimal exponent `E` with `10^E ≤ x < 10^(E+1)`, from an estimate by the bit length
corrected by exact comparisons. -/
def decimalExponent (x : Binary) : Int :=
  let l : Int := (bitLength x.mant : Int) - 1 + x.exp
  let e0 : Int := (l * 30103).fdiv 100000
  let up (e : Int) : Int := if cmpScaled 1 (e + 1) 0 x.mant 0 x.exp != .gt then e + 1 else e
  let down (e : Int) : Int := if cmpScaled 1 e 0 x.mant 0 x.exp == .gt then e - 1 else e
  down (down (up (up e0)))

/-- Whether `c · 10^k` lies in the rounding interval of `x`. -/
def inInterval (x : Binary) (c : Nat) (k : Int) : Bool :=
  let lo := if x.narrowBelow then 4 * x.mant - 1 else 4 * x.mant - 2
  let hi := 4 * x.mant + 2
  let below := cmpScaled lo 0 (x.exp - 2) c k 0
  let above := cmpScaled c k 0 hi 0 (x.exp - 2)
  if x.mant % 2 = 0 then below != .gt && above != .gt
  else below == .lt && above == .lt

/-- The decimal digits of a number, most significant first. -/
def natDigits (n : Nat) : List Nat := (Nat.toDigits 10 n).map fun c => c.toNat - '0'.toNat

/-- Drops trailing zeros of a digit list. -/
def trimZeros (ds : List Nat) : List Nat := (ds.reverse.dropWhile (· = 0)).reverse

/-- The candidate with `n` significant digits, if one lies in the interval. -/
def candidate (x : Binary) (e : Int) (n : Nat) : Option Digits :=
  let k := e - n + 1
  let c := floorDiv x.mant x.exp k
  let lowIn := inInterval x c k
  let highIn := inInterval x (c + 1) k
  let pick (d : Nat) : Digits := ⟨trimZeros (natDigits d), (natDigits d).length + k⟩
  if lowIn && highIn then
    -- distances to the value, doubled: v - c·10^k against (c+1)·10^k - v
    match cmpScaled (2 * c + 1) k 0 x.mant 0 (x.exp + 1) with
    | .lt => some (pick (c + 1))
    | .gt => some (pick c)
    | .eq => some (pick (if c % 2 = 0 then c else c + 1))
  else if lowIn then some (pick c)
  else if highIn then some (pick (c + 1))
  else none

/-- The shortest digits of a finite positive binary number. -/
def Binary.shortest (x : Binary) : Digits :=
  let e := decimalExponent x
  let rec go : Nat → Nat → Digits
    | 0, _ => ⟨natDigits x.mant, 0⟩
    | fuel + 1, n => match candidate x e n with
      | some d => d
      | none => go fuel (n + 1)
  go 17 1

end PassPlan.Decimal
