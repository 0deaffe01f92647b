import PassPlan.Value.Time
/-!
Reading RFC 3339 times such as `2006-01-02T15:04:05.999Z` or `2006-01-02T15:04:05+07:00`.
The text is matched against the layout piece by piece, and a failure names the piece of the
layout and the rest of the text where matching stopped, or the field out of range. The layout
lets through what the standard does not: a one-digit hour, a comma before the fraction, and
zone offsets up to 24 hours and 60 minutes. Such a time reads, but has no text the standard
allows when its offset is a whole day or more.
-/
namespace PassPlan.Instant

/-- The layout of RFC 3339 times as failures name it. -/
def rfc3339Layout : String := "2006-01-02T15:04:05Z07:00"

/-- Why a time text does not read: the text, the layout piece and the rest of the text where
matching stopped, or a message that replaces both. -/
structure TimeError where
  value : String
  layoutElem : String
  valueElem : String
  message : String := ""
deriving DecidableEq, Repr

/-- Two lower-case hexadecimal digits of a byte. -/
def hexByte (b : Nat) : String :=
  let d (n : Nat) : Char := if n < 10 then Char.ofNat (48 + n) else Char.ofNat (87 + n)
  String.ofList ['\\', 'x', d (b / 16 % 16), d (b % 16)]

/-- A text in double quotes; quotes and backslashes are escaped, and every byte of a control
or non-ASCII character is written in hexadecimal. -/
def timeQuote (s : String) : String :=
  let part (c : Char) : String :=
    if c.toNat < 0x20 || c.toNat ≥ 0x80 then String.join ((String.singleton c).toUTF8.toList.map fun b => hexByte b.toNat)
    else if c = '"' || c = '\\' then "\\" ++ String.singleton c
    else String.singleton c
  "\"" ++ String.join (s.toList.map part) ++ "\""

/-- The message of a time failure. -/
def TimeError.text (e : TimeError) : String :=
  if e.message = "" then
    "parsing time " ++ timeQuote e.value ++ " as " ++ timeQuote rfc3339Layout ++ ": cannot parse " ++
      timeQuote e.valueElem ++ " as " ++ timeQuote e.layoutElem
  else "parsing time " ++ timeQuote e.value ++ e.message

/-- Whether the character at a position is a decimal digit. -/
def digitAt (cs : List Char) (i : Nat) : Bool := (cs[i]?.map Char.isDigit).getD false

/-- The value of a decimal digit. -/
def digitValue (c : Char) : Nat := c.toNat - 48

/-- A number of two digits, or of one when `fixed` is off, and the rest. -/
def twoDigits (cs : List Char) (fixed : Bool) : Option (Nat × List Char) :=
  match cs with
  | a :: rest =>
    if !a.isDigit then none
    else match rest with
      | b :: more =>
        if b.isDigit then some (digitValue a * 10 + digitValue b, more)
        else if fixed then none else some (digitValue a, rest)
      | [] => if fixed then none else some (digitValue a, [])
  | [] => none

/-- The nanoseconds of a fraction's digits; digits past the ninth are dropped. -/
def fractionNanos (ds : List Char) : Nat :=
  let ds := ds.take 9
  ds.foldl (fun n c => n * 10 + digitValue c) 0 * Nat.pow 10 (9 - ds.length)

/-- Reads a time by the RFC 3339 layout. -/
def ofLayout (s : String) : Except TimeError Instant := do
  let fail (le : String) (rest : List Char) : TimeError := ⟨s, le, String.ofList rest, ""⟩
  let range (what : String) (rest : List Char) : TimeError :=
    ⟨s, "", String.ofList rest, ": " ++ what ++ " out of range"⟩
  let lit (c : Char) (v : List Char) : Except TimeError (List Char) :=
    match v with
    | d :: rest => if d = c then pure rest else throw (fail (String.singleton c) v)
    | [] => throw (fail (String.singleton c) v)
  let v := s.toList
  if v.length < 4 || !digitAt v 0 || !(v.take 4).all Char.isDigit then throw (fail "2006" v)
  let year := (v.take 4).foldl (fun n c => n * 10 + digitValue c) 0
  let v ← lit '-' (v.drop 4)
  let some (month, v') := twoDigits v true | throw (fail "01" v)
  if month = 0 || month > 12 then throw (range "month" v')
  let v ← lit '-' v'
  let some (day, v') := twoDigits v true | throw (fail "02" v)
  let v ← lit 'T' v'
  let some (hour, v') := twoDigits v false | throw (fail "15" v)
  if hour ≥ 24 then throw (range "hour" v')
  let v ← lit ':' v'
  let some (minute, v') := twoDigits v true | throw (fail "04" v)
  if minute ≥ 60 then throw (range "minute" v')
  let v ← lit ':' v'
  let some (second, v') := twoDigits v true | throw (fail "05" v)
  if second ≥ 60 then throw (range "second" v')
  let (nanos, v) := match v' with
    | c :: d :: rest =>
      if (c = '.' || c = ',') && d.isDigit then
        let ds := (d :: rest).takeWhile Char.isDigit
        (fractionNanos ds, (d :: rest).dropWhile Char.isDigit)
      else (0, v')
    | _ => (0, v')
  let (offset, v) ← match v with
    | 'Z' :: rest => pure ((0 : Int), rest)
    | sign :: h1 :: h2 :: colon :: m1 :: m2 :: rest =>
      if colon ≠ ':' then throw (fail "Z07:00" v)
      else
        match twoDigits [h1, h2] true, twoDigits [m1, m2] true with
        | some (hr, _), some (mm, _) =>
          if hr > 24 then throw (range "time zone offset hour" rest)
          if mm > 60 then throw (range "time zone offset minute" rest)
          let off : Int := (hr * 60 + mm) * 60
          if sign = '+' then pure (off, rest)
          else if sign = '-' then pure (-off, rest)
          else throw (fail "Z07:00" v)
        | _, _ => throw (fail "Z07:00" v)
    | _ => throw (fail "Z07:00" v)
  if !v.isEmpty then throw ⟨s, "", String.ofList v, ": extra text: " ++ timeQuote (String.ofList v)⟩
  if day < 1 || day > Civil.monthDays year month then throw (range "day" v)
  let civil : Int := Civil.toSeconds ⟨year, month, day, hour, minute, second⟩
  pure ⟨civil - offset, nanos, offset⟩

/-- Reads an RFC 3339 time. -/
def ofRfc3339 (s : String) : Except TimeError Instant := ofLayout s

/-- Why a time has no RFC 3339 text that the standard allows: a year outside 0 to 9999, or a
zone offset of a whole day or more. -/
def strictProblem? (t : Instant) : Option String :=
  let y := t.civil.year
  if y < 0 || y > 9999 then some "year outside of range [0,9999]"
  else if t.offset.natAbs / 3600 ≥ 24 then some "timezone hour outside of range [0,23]"
  else none

end PassPlan.Instant
