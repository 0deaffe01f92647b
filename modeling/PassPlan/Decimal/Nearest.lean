import PassPlan.Decimal.Shortest
/-!
The double nearest to a decimal, ties to even. The quotient is taken in exact natural-number
arithmetic at the scale that leaves 53 significant bits (fewer below the normal range), and
rounded once on the remainder, so no digit is lost on the way.
-/
namespace PassPlan.Decimal

/-- The double nearest to `num / den`, for positive `num` and `den`. -/
def nearest (num den : Nat) : Float :=
  let l : Int := (bitLength num : Int) - bitLength den
  let quotient (k : Int) : Nat := num * Nat.pow 2 (-k).toNat / (den * Nat.pow 2 k.toNat)
  let k := if quotient (l - 53) ≥ Nat.pow 2 53 then l - 52 else l - 53
  let k := if k < -1074 then -1074 else k
  let n := num * Nat.pow 2 (-k).toNat
  let d := den * Nat.pow 2 k.toNat
  let q := n / d
  let r := n - q * d
  let q := if 2 * r > d || (2 * r = d && q % 2 = 1) then q + 1 else q
  if k + bitLength q > 1024 then 1.0 / 0.0
  else Float.scaleB q.toUInt64.toFloat k

/-- The double nearest to `m · 10^e`. Exponents far outside the range of doubles give infinity
or zero without building their powers. -/
def ofDecimal (m : Nat) (e : Int) : Float :=
  let size : Int := (Nat.toDigits 10 m).length
  if m = 0 then 0.0
  else if e + size > 311 then 1.0 / 0.0
  else if e + size < -326 then 0.0
  else if e ≥ 0 then nearest (m * Nat.pow 10 e.toNat) 1
  else nearest m (Nat.pow 10 (-e).toNat)

end PassPlan.Decimal
