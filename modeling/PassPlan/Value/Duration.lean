import PassPlan.Text.Quoted
/-!
Durations as text, from a signed count of nanoseconds: under a second in the largest of
nanoseconds, microseconds and milliseconds that fits, with a fraction; from a second on as
hours, minutes and seconds, leaving out leading zero units; fractions lose their trailing zeros
and, when nothing is left, their point. Zero is `0s`. Read back, a duration is a sum of terms,
each a decimal number with a unit from nanoseconds to hours.
-/
namespace PassPlan.Duration

/-- The fraction of `n / 10 ^ places` after the point, without trailing zeros and without the
point when it is zero. -/
def fractionText (n places : Nat) : String :=
  let frac := n % Nat.pow 10 places
  if frac = 0 then ""
  else
    let ds := (Nat.toDigits 10 frac)
    let ds := List.replicate (places - ds.length) '0' ++ ds
    "." ++ String.ofList (ds.reverse.dropWhile (· = '0')).reverse

/-- The text of a count of nanoseconds. -/
def text (ns : Int) : String :=
  let u := ns.natAbs
  let sign := if ns < 0 then "-" else ""
  if u = 0 then "0s"
  else if u < 1000 then sign ++ toString u ++ "ns"
  else if u < 1000000 then sign ++ toString (u / 1000) ++ fractionText u 3 ++ "µs"
  else if u < 1000000000 then sign ++ toString (u / 1000000) ++ fractionText u 6 ++ "ms"
  else
    let secs := u / 1000000000
    let s := toString (secs % 60) ++ fractionText u 9 ++ "s"
    let mins := secs / 60
    let hours := mins / 60
    if mins = 0 then sign ++ s
    else if hours = 0 then sign ++ toString (mins % 60) ++ "m" ++ s
    else sign ++ toString hours ++ "h" ++ toString (mins % 60) ++ "m" ++ s


/-- The nanoseconds of a unit of duration text. -/
def unitNanos : String → Option Nat
  | "ns" => some 1
  | "us" | "µs" | "μs" => some 1000
  | "ms" => some 1000000
  | "s" => some 1000000000
  | "m" => some 60000000000
  | "h" => some 3600000000000
  | _ => none

/-- The largest magnitude a duration can have, one past the largest positive one. -/
def limit : Nat := Nat.pow 2 63

/-- Leading decimal digits: their value, or none when it passes the limit, and the rest. -/
def leadingInt (cs : List Char) : Option Nat × List Char :=
  let ds := cs.takeWhile Char.isDigit
  let v := ds.foldl (fun (acc : Option Nat) c => acc.bind fun a =>
    let a := a * 10 + (c.toNat - 48)
    if a > limit then none else some a) (some 0)
  (v, cs.dropWhile Char.isDigit)

/-- Leading fraction digits: their value and their scale as a power of ten, digits past the
point where the value would pass the limit being dropped, and the rest. -/
def leadingFraction (cs : List Char) : Nat × Nat × List Char :=
  let ds := cs.takeWhile Char.isDigit
  let (v, scale, _) := ds.foldl (fun (v, scale, full) c =>
    if full then (v, scale, full)
    else if v > (limit - 1) / 10 then (v, scale, true)
    else
      let v' := v * 10 + (c.toNat - 48)
      if v' > limit then (v, scale, true) else (v', scale * 10, false)) (0, 1, false)
  (v, scale, cs.dropWhile Char.isDigit)

/-- Reads the terms of a duration after its sign: each a decimal number with an optional
fraction and a unit, added up. -/
def parseTerms (orig : String) : Nat → List Char → Nat → Except String Nat
  | 0, _, d => .ok d
  | _, [], d => .ok d
  | fuel + 1, cs, d => do
    let invalid := "time: invalid duration " ++ Text.quote orig
    match cs with
    | c :: _ => if !(c = '.' || c.isDigit) then throw invalid
    | [] => pure ()
    let (v, rest) := leadingInt cs
    let some v := v | throw invalid
    let pre := rest.length != cs.length
    let (f, scale, rest, post) := match rest with
      | '.' :: more =>
        let (f, scale, after) := leadingFraction more
        (f, scale, after, after.length != more.length)
      | _ => (0, 1, rest, false)
    if !pre && !post then throw invalid
    let unit := rest.takeWhile fun c => !(c = '.' || c.isDigit)
    let rest := rest.drop unit.length
    if unit.isEmpty then throw ("time: missing unit in duration " ++ Text.quote orig)
    let some u := unitNanos (String.ofList unit)
      | throw ("time: unknown unit " ++ Text.quote (String.ofList unit) ++ " in duration " ++ Text.quote orig)
    if v > limit / u then throw invalid
    let v := v * u
    let v := if f > 0 then v + (Float.ofNat f * (Float.ofNat u / Float.ofNat scale)).toUInt64.toNat else v
    if v > limit then throw invalid
    let d := d + v
    if d > limit then throw invalid
    parseTerms orig fuel rest d

/-- Reads a duration written as signed terms of a number and a unit (`1h30m`, `-1.5s`,
`250ms`) into nanoseconds; a lone `0` needs no unit. -/
def parse (s : String) : Except String Int := do
  let (neg, body) := match s.toList with
    | '-' :: rest => (true, rest)
    | '+' :: rest => (false, rest)
    | cs => (false, cs)
  if body = ['0'] then return 0
  if body.isEmpty then throw ("time: invalid duration " ++ Text.quote s)
  let d ← parseTerms s (body.length + 1) body 0
  if neg then pure (-(d : Int))
  else if d > limit - 1 then throw ("time: invalid duration " ++ Text.quote s)
  else pure d

end PassPlan.Duration
