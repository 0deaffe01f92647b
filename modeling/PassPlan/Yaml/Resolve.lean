import PassPlan.Value.Basic
import PassPlan.Decimal.Nearest
/-!
What a YAML scalar means. A plain scalar without a tag is null, a boolean, an integer, a float,
an instant or a string, decided by its text: the words `null`, `true`, `.inf` and their
capitalised forms; integers in decimal, or with a `0x`, `0o`, `0b` or a leading-zero prefix,
underscores ignored, within 64 bits signed or else unsigned; decimal floats; dates and date-times.
An explicit tag asks for one of these, and the text must fit it.
-/
namespace PassPlan.Yaml

/-- The digit value of a character in a base up to 16. -/
def digitIn (base : Nat) (c : Char) : Option Nat :=
  let v := if c.isDigit then some (c.toNat - '0'.toNat)
    else if 'a' ≤ c && c ≤ 'z' then some (c.toNat - 'a'.toNat + 10)
    else if 'A' ≤ c && c ≤ 'Z' then some (c.toNat - 'A'.toNat + 10)
    else none
  v.bind fun d => if d < base then some d else none

/-- Reads digits of a base, at least one. -/
def digitsIn (base : Nat) (cs : List Char) : Option Nat :=
  if cs.isEmpty then none
  else cs.foldlM (fun acc c => (digitIn base c).map (acc * base + ·)) 0

/-- An unsigned integer with an optional base prefix: `0x`, `0o`, `0b`, or a leading zero
for octal. -/
def unsignedText (cs : List Char) : Option Nat :=
  match cs with
  | '0' :: x :: rest =>
    if x = 'x' || x = 'X' then digitsIn 16 rest
    else if x = 'o' || x = 'O' then digitsIn 8 rest
    else if x = 'b' || x = 'B' then digitsIn 2 rest
    else digitsIn 8 (x :: rest)
  | _ => digitsIn 10 cs

/-- The bounds of signed 64-bit integers. -/
def int64Min : Int := -9223372036854775808
def int64Max : Int := 9223372036854775807

/-- A signed integer within 64 bits, with an optional sign and base prefix. -/
def signedInt? (s : String) : Option Int :=
  let (neg, cs) := match s.toList with
    | '-' :: rest => (true, rest)
    | '+' :: rest => (false, rest)
    | cs => (false, cs)
  (unsignedText cs).bind fun n =>
    let v : Int := if neg then -(n : Int) else n
    if int64Min ≤ v && v ≤ int64Max then some v else none

/-- An unsigned integer within 64 bits, with an optional base prefix and no sign. -/
def unsignedInt? (s : String) : Option Nat :=
  (unsignedText s.toList).bind fun n => if n < Nat.pow 2 64 then some n else none

/-- A decimal float: optional sign, digits with an optional fraction (or a fraction alone),
and an optional exponent; parsed to the nearest double. Values too large for a double are
not floats. -/
def decimalFloat? (s : String) : Option Float :=
  let (neg, cs) := match s.toList with
    | '-' :: rest => (true, rest)
    | '+' :: rest => (false, rest)
    | cs => (false, cs)
  let whole := cs.takeWhile Char.isDigit
  let cs := cs.dropWhile Char.isDigit
  let (frac, cs, hasPoint) := match cs with
    | '.' :: rest => (rest.takeWhile Char.isDigit, rest.dropWhile Char.isDigit, true)
    | _ => ([], cs, false)
  let ok := if whole.isEmpty then hasPoint && !frac.isEmpty else true
  let expo : Option Int := match cs with
    | [] => some 0
    | e :: rest =>
      if e = 'e' || e = 'E' then
        let (eneg, ds) := match rest with
          | '-' :: r => (true, r)
          | '+' :: r => (false, r)
          | r => (false, r)
        if !ds.isEmpty && ds.all Char.isDigit then
          let n : Int := (digitsIn 10 ds).getD 0
          some (if eneg then -n else n)
        else none
      else none
  match expo with
  | none => none
  | some x =>
    if !ok then none
    else
      let m := (digitsIn 10 (whole ++ frac)).getD 0
      let f := Decimal.ofDecimal m (x - frac.length)
      let f := if neg then -f else f
      if f.isInf then none else some f

/-- Two digits or one of a date or time field. -/
def shortNumber (cs : List Char) : Option (Nat × List Char) :=
  match cs with
  | a :: b :: rest =>
    if a.isDigit then
      if b.isDigit then some ((a.toNat - 48) * 10 + (b.toNat - 48), rest)
      else some (a.toNat - 48, b :: rest)
    else none
  | [a] => if a.isDigit then some (a.toNat - 48, []) else none
  | [] => none

/-- Exactly two digits. -/
def twoDigits (cs : List Char) : Option (Nat × List Char) :=
  match cs with
  | a :: b :: rest => if a.isDigit && b.isDigit then some ((a.toNat - 48) * 10 + (b.toNat - 48), rest) else none
  | _ => none

/-- An optional fraction of a second after a point or comma, as nanoseconds. -/
def fractionNanos (cs : List Char) : Nat × List Char :=
  match cs with
  | p :: d :: rest =>
    if (p = '.' || p = ',') && d.isDigit then
      let ds := (d :: rest).takeWhile Char.isDigit
      let rest := (d :: rest).dropWhile Char.isDigit
      let nine := (ds ++ List.replicate 9 '0').take 9
      ((digitsIn 10 nine).getD 0, rest)
    else (0, cs)
  | _ => (0, cs)

/-- A timestamp: a date `YYYY-M-D`, optionally followed by `T` or `t` and a time with a zone
(`Z` or `±hh:mm`), or by a space and a time without zone (read as UTC). -/
def timestamp? (s : String) : Option Instant := do
  let cs := s.toList
  let year := cs.take 4
  guard (year.length = 4 && year.all Char.isDigit)
  let cs := cs.drop 4
  let '-' :: cs := cs | none
  let (month, cs) ← shortNumber cs
  let '-' :: cs := cs | none
  let (day, cs) ← shortNumber cs
  let y : Int := (digitsIn 10 year).getD 0
  guard (1 ≤ month && month ≤ 12)
  guard (1 ≤ day && day ≤ Civil.monthDays y month)
  let date : Civil := ⟨y, month, day, 0, 0, 0⟩
  match cs with
  | [] => pure ⟨date.toSeconds, 0, 0⟩
  | sep :: cs =>
    let (hour, cs) ← shortNumber cs
    let ':' :: cs := cs | none
    let (minute, cs) ← shortNumber cs
    let ':' :: cs := cs | none
    let (second, cs) ← shortNumber cs
    guard (hour < 24 && minute < 60 && second < 60)
    let (nanos, cs) := fractionNanos cs
    let clock : Civil := { date with hour, minute, second }
    if sep = 'T' || sep = 't' then
      match cs with
      | ['Z'] => pure ⟨clock.toSeconds, nanos, 0⟩
      | sign :: rest =>
        guard (sign = '+' || sign = '-')
        let (hh, rest) ← twoDigits rest
        let ':' :: rest := rest | none
        let (mm, rest) ← twoDigits rest
        guard rest.isEmpty
        let off : Int := (hh * 3600 + mm * 60 : Nat)
        let off := if sign = '-' then -off else off
        pure ⟨clock.toSeconds - off, nanos, off⟩
      | [] => none
    else if sep = ' ' then
      guard cs.isEmpty
      pure ⟨clock.toSeconds, nanos, 0⟩
    else none

/-- Whether a text could be a timestamp at all: four digits and a hyphen first. -/
def looksLikeDate (s : String) : Bool :=
  let cs := s.toList
  (cs.takeWhile Char.isDigit).length = 4 && cs.length > 4 && cs.getD 4 ' ' = '-'

/-- The words with a fixed meaning. -/
def wordValue? (s : String) : Option (String × Value) :=
  if s = "true" || s = "True" || s = "TRUE" then some ("!!bool", .bool true)
  else if s = "false" || s = "False" || s = "FALSE" then some ("!!bool", .bool false)
  else if s = "" || s = "~" || s = "null" || s = "Null" || s = "NULL" then some ("!!null", .null)
  else if s = ".nan" || s = ".NaN" || s = ".NAN" then some ("!!float", .float (0.0 / 0.0))
  else if s = ".inf" || s = ".Inf" || s = ".INF" || s = "+.inf" || s = "+.Inf" || s = "+.INF" then
    some ("!!float", .float (1.0 / 0.0))
  else if s = "-.inf" || s = "-.Inf" || s = "-.INF" then some ("!!float", .float (-1.0 / 0.0))
  else none

/-- The meaning of a scalar's text, checking timestamps only when `dates` holds. -/
def meaning (s : String) (dates : Bool) : String × Value :=
  match s.toList with
  | [] => ("!!null", .null)
  | c :: _ =>
    let hinted := c.isDigit || c = '+' || c = '-' || c = '.' || "yYnNtTfFoO~".toList.contains c
    if !hinted then ("!!str", .str s)
    else match wordValue? s with
    | some r => r
    | none =>
      if c = '.' then
        match decimalFloat? s with
        | some f => ("!!float", .float f)
        | none => ("!!str", .str s)
      else if c.isDigit || c = '+' || c = '-' then
        let stamp := if dates && looksLikeDate s then timestamp? s else none
        match stamp with
        | some t => ("!!timestamp", .time t)
        | none =>
          let plain := String.ofList (s.toList.filter (· ≠ '_'))
          match signedInt? plain with
          | some i => ("!!int", .int i)
          | none =>
            match unsignedInt? plain with
            | some n => ("!!int", .uint n)
            | none =>
              match decimalFloat? plain with
              | some f => ("!!float", .float f)
              | none => ("!!str", .str s)
      else ("!!str", .str s)

/-- The tag a plain scalar without tag resolves to. -/
def plainTag (s : String) : String := (meaning s true).1

/-- The tags whose text is checked. -/
def resolvable (tag : String) : Bool :=
  tag = "" || tag = "!!str" || tag = "!!bool" || tag = "!!int" || tag = "!!float" ||
    tag = "!!null" || tag = "!!timestamp"

/-- The value of a scalar under a tag (short form, empty for none). A tag the text does not
fit is an error, except that an integer is taken as a float under `!!float`. -/
def resolve (tag value : String) : Except String (String × Value) :=
  if !resolvable tag then .ok (tag, .str value)
  else if tag = "!!str" then .ok ("!!str", .str value)
  else
    let (rtag, v) := meaning value (tag = "" || tag = "!!timestamp")
    if tag = "" || tag = rtag then .ok (rtag, v)
    else if tag = "!!float" && rtag = "!!int" then
      match v with
      | .int i => .ok ("!!float", .float (Float.ofInt i))
      | _ => .error ("cannot decode " ++ rtag ++ " `" ++ value ++ "` as a " ++ tag)
    else .error ("cannot decode " ++ rtag ++ " `" ++ value ++ "` as a " ++ tag)

/-- The value of a base-64 digit. -/
def base64Digit (c : Char) : Option Nat :=
  if 'A' ≤ c && c ≤ 'Z' then some (c.toNat - 'A'.toNat)
  else if 'a' ≤ c && c ≤ 'z' then some (c.toNat - 'a'.toNat + 26)
  else if c.isDigit then some (c.toNat - '0'.toNat + 52)
  else if c = '+' then some 62 else if c = '/' then some 63 else none

/-- Decodes padded standard base 64, ignoring line breaks. -/
def base64Decode (s : String) : Option (List UInt8) :=
  let cs := s.toList.filter fun c => c ≠ '\n' && c ≠ '\r'
  if cs.length % 4 ≠ 0 then none
  else
    let rec go : Nat → List Char → List UInt8 → Option (List UInt8)
      | 0, _, acc => some acc
      | _ + 1, [], acc => some acc
      | n + 1, a :: b :: c :: d :: rest, acc =>
        match base64Digit a, base64Digit b with
        | some x, some y =>
          let b1 := (x * 4 + y / 16).toUInt8
          if c = '=' then
            if d = '=' && rest.isEmpty && y % 16 = 0 then some (acc ++ [b1]) else none
          else match base64Digit c with
            | none => none
            | some z =>
              let b2 := ((y % 16) * 16 + z / 4).toUInt8
              if d = '=' then
                if rest.isEmpty && z % 4 = 0 then some (acc ++ [b1, b2]) else none
              else match base64Digit d with
                | none => none
                | some w => go n rest (acc ++ [b1, b2, ((z % 4) * 64 + w).toUInt8])
        | _, _ => none
      | _ + 1, _, _ => none
    go (cs.length + 1) cs []

/-- Bytes as text; invalid sequences become the replacement character. -/
def bytesText (bs : List UInt8) : String :=
  match String.fromUTF8? (ByteArray.mk bs.toArray) with
  | some s => s
  | none => String.ofList (bs.map fun b => if b < 0x80 then Char.ofNat b.toNat else Char.ofNat 0xFFFD)

end PassPlan.Yaml
