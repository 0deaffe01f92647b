import PassPlan.Text.Quoted
import PassPlan.Decimal.Nearest
/-!
Numbers and truth values read from text. A truth value has six spellings each way. An integer
may carry a sign, a base prefix (`0x`, `0o`, `0b`, or a leading zero for octal) and underscores
between digits, and must fit in 64 bits. Failures quote the text and say whether its syntax was
wrong or its value out of range. A floating-point number is decimal or hexadecimal, with
underscores between digits, and is rounded to the nearest double; one too large for a double is
not read.
-/
namespace PassPlan.Numeral

/-- The truth value a text spells. -/
def parseBool (s : String) : Except String Bool :=
  if ["1", "t", "T", "TRUE", "true", "True"].contains s then .ok true
  else if ["0", "f", "F", "FALSE", "false", "False"].contains s then .ok false
  else .error ("strconv.ParseBool: parsing " ++ Text.quote s ++ ": invalid syntax")

/-- The value of a digit in a base. -/
def digitValue (base : Nat) (c : Char) : Option Nat :=
  let d := if c.isDigit then some (c.toNat - 48)
    else if 'a' ≤ c.toLower && c.toLower ≤ 'z' then some (c.toLower.toNat - 87)
    else none
  d.bind fun d => if d < base then some d else none

/-- Whether underscores in a number stand only between digits, a base prefix counting as a
digit. -/
def underscoresOk (cs : List Char) : Bool :=
  let cs := match cs with
    | '+' :: rest | '-' :: rest => rest
    | _ => cs
  let (hex, cs, start) := match cs with
    | '0' :: c :: rest =>
      if ['b', 'o', 'x'].contains c.toLower then (c.toLower == 'x', rest, '0') else (false, cs, '^')
    | _ => (false, cs, '^')
  let step (saw : Option Char) (c : Char) : Option Char :=
    saw.bind fun saw =>
      if c.isDigit || (hex && 'a' ≤ c.toLower && c.toLower ≤ 'f') then some '0'
      else if c = '_' then (if saw = '0' then some '_' else none)
      else if saw = '_' then none
      else some '!'
  match cs.foldl step (some start) with
  | some saw => saw ≠ '_'
  | none => false

/-- Reads an unsigned number with an optional base prefix and underscores. -/
def parseUnsigned (cs : List Char) : Option Nat :=
  let (base, ds) := match cs with
    | '0' :: c :: rest =>
      if c.toLower = 'x' && !rest.isEmpty then (16, rest)
      else if c.toLower = 'o' && !rest.isEmpty then (8, rest)
      else if c.toLower = 'b' && !rest.isEmpty then (2, rest)
      else (8, c :: rest)
    | ['0'] => (8, [])
    | _ => (10, cs)
  if cs.isEmpty then none
  else ds.foldl (fun acc c => acc.bind fun a =>
    if c = '_' then some a else (digitValue base c).map fun d => a * base + d) (some 0)

/-- Reads a signed 64-bit integer, its base taken from its prefix. -/
def parseInt (s : String) : Except String Int :=
  let syntaxError := Except.error ("strconv.ParseInt: parsing " ++ Text.quote s ++ ": invalid syntax")
  let (neg, body) := match s.toList with
    | '-' :: rest => (true, rest)
    | '+' :: rest => (false, rest)
    | cs => (false, cs)
  match parseUnsigned body with
  | none => syntaxError
  | some n =>
    if body.contains '_' && !underscoresOk s.toList then syntaxError
    else if (neg && n > Nat.pow 2 63) || (!neg && n ≥ Nat.pow 2 63) then
      .error ("strconv.ParseInt: parsing " ++ Text.quote s ++ ": value out of range")
    else .ok (if neg then -(n : Int) else n)

/-- Infinity or not-a-number spelled out in any case: `inf` or `infinity` with an optional
sign, or `nan` without one. -/
def specialFloat (cs : List Char) : Option Float :=
  let infinite (w : List Char) : Bool :=
    w.map Char.toLower == "inf".toList || w.map Char.toLower == "infinity".toList
  match cs with
  | '+' :: rest => if infinite rest then some (1.0 / 0.0) else none
  | '-' :: rest => if infinite rest then some (-(1.0 / 0.0)) else none
  | _ =>
    if infinite cs then some (1.0 / 0.0)
    else if cs.map Char.toLower == "nan".toList then some (0.0 / 0.0)
    else none

/-- The digits of a significand up to its end: the digits in order (underscores skipped), how
many stand after the point, and what follows. A second point ends it. -/
def significand (hex : Bool) : List Char → Bool → List Char × Nat × List Char
  | [], _ => ([], 0, [])
  | c :: rest, afterPoint =>
    if c = '_' then significand hex rest afterPoint
    else if c = '.' then
      if afterPoint then ([], 0, c :: rest) else significand hex rest true
    else if c.isDigit || (hex && 'a' ≤ c.toLower && c.toLower ≤ 'f') then
      let (ds, f, r) := significand hex rest afterPoint
      (c :: ds, if afterPoint then f + 1 else f, r)
    else ([], 0, c :: rest)

/-- The digits of an exponent and underscores among them, and what follows. The value stops
growing past 10000, where every exponent already means overflow or zero. -/
def exponentDigits : List Char → Nat → Nat × List Char
  | c :: rest, acc =>
    if c = '_' then exponentDigits rest acc
    else if c.isDigit then exponentDigits rest (if acc < 10000 then acc * 10 + (c.toNat - 48) else acc)
    else (acc, c :: rest)
  | [], acc => (acc, [])

/-- Reads an exponent after its mark: an optional sign, then a digit, then digits and
underscores. -/
def readExponent (cs : List Char) : Option (Int × List Char) :=
  let (neg, ds) := match cs with
    | '-' :: rest => (true, rest)
    | '+' :: rest => (false, rest)
    | _ => (false, cs)
  match ds with
  | d :: _ =>
    if d.isDigit then
      let (e, rest) := exponentDigits ds 0
      some (if neg then -(e : Int) else e, rest)
    else none
  | [] => none

/-- The double nearest to `m · 2^e`, infinite when it overflows. -/
def ofBinary (m : Nat) (e : Int) : Float :=
  let size : Int := Decimal.bitLength m
  if m = 0 then 0.0
  else if size + e > 1025 then 1.0 / 0.0
  else if size + e < -1080 then 0.0
  else if e ≥ 0 then Decimal.nearest (m * Nat.pow 2 e.toNat) 1
  else Decimal.nearest m (Nat.pow 2 (-e).toNat)

/-- Reads a floating-point number: an optional sign, then decimal digits with at most one point
and an optional `e` exponent, or `0x` and hexadecimal digits with at most one point and a
required `p` exponent of two; underscores may stand only between digits. Infinity and
not-a-number are spelled out. A number too large for a double is out of range and not read. -/
def parseFloat (s : String) : Option Float :=
  let cs := s.toList
  match specialFloat cs with
  | some f => some f
  | none =>
    let (neg, body) := match cs with
      | '-' :: rest => (true, rest)
      | '+' :: rest => (false, rest)
      | _ => (false, cs)
    let (hex, body) := match body with
      | '0' :: x :: rest => if x.toLower = 'x' && !rest.isEmpty then (true, rest) else (false, body)
      | _ => (false, body)
    let (digits, fraction, rest) := significand hex body false
    let base := if hex then 16 else 10
    let mark := if hex then 'p' else 'e'
    let expo : Option (Int × List Char) := match rest with
      | c :: more => if c.toLower = mark then readExponent more else if hex then none else some (0, rest)
      | [] => if hex then none else some (0, [])
    match expo with
    | some (e, []) =>
      if digits.isEmpty then none
      else if cs.contains '_' && !underscoresOk cs then none
      else
        let m := digits.foldl (fun a c => a * base + ((digitValue base c).getD 0)) 0
        let f := if hex then ofBinary m (e - 4 * fraction) else Decimal.ofDecimal m (e - fraction)
        if f.isInf then none else some (if neg then -f else f)
    | _ => none

end PassPlan.Numeral
