/-!
Instants of civil time: seconds and nanoseconds since 1970-01-01T00:00:00Z with the offset of
the zone they were written in. The civil calendar is the proleptic Gregorian one; dates convert
by counting days in 400-year eras.
-/
namespace PassPlan

/-- An instant, and the offset east of UTC in seconds of the zone it is shown in. -/
structure Instant where
  seconds : Int
  nanos : Nat := 0
  offset : Int := 0
deriving DecidableEq, Repr, Inhabited

/-- A civil date and time of day. -/
structure Civil where
  year : Int
  month : Nat
  day : Nat
  hour : Nat := 0
  minute : Nat := 0
  second : Nat := 0
deriving DecidableEq, Repr

namespace Civil

/-- Days from 1970-01-01 to a civil date. -/
def daysFromCivil (y : Int) (m d : Nat) : Int :=
  let y := if m ≤ 2 then y - 1 else y
  let era := y.fdiv 400
  let yoe := y - era * 400
  let mp : Int := if m > 2 then (m : Int) - 3 else (m : Int) + 9
  let doy := (153 * mp + 2) / 5 + (d : Int) - 1
  let doe := yoe * 365 + yoe / 4 - yoe / 100 + doy
  era * 146097 + doe - 719468

/-- The civil date of a day count from 1970-01-01. -/
def civilFromDays (z : Int) : Int × Nat × Nat :=
  let z := z + 719468
  let era := z.fdiv 146097
  let doe := z - era * 146097
  let yoe := (doe - doe / 1460 + doe / 36524 - doe / 146096) / 365
  let y := yoe + era * 400
  let doy := doe - (365 * yoe + yoe / 4 - yoe / 100)
  let mp := (5 * doy + 2) / 153
  let d := doy - (153 * mp + 2) / 5 + 1
  let m := if mp < 10 then mp + 3 else mp - 9
  ((if m ≤ 2 then y + 1 else y), m.toNat, d.toNat)

/-- Whether a year is a leap year. -/
def isLeap (y : Int) : Bool := (y % 4 == 0 && y % 100 != 0) || y % 400 == 0

/-- The number of days in a month. -/
def monthDays (y : Int) (m : Nat) : Nat :=
  match m with
  | 2 => if isLeap y then 29 else 28
  | 4 | 6 | 9 | 11 => 30
  | _ => 31

/-- Seconds since the epoch of a civil time read in UTC. -/
def toSeconds (c : Civil) : Int :=
  daysFromCivil c.year c.month c.day * 86400 + c.hour * 3600 + c.minute * 60 + c.second

/-- The civil time in UTC of seconds since the epoch. -/
def ofSeconds (s : Int) : Civil :=
  let days := s.fdiv 86400
  let rest := (s - days * 86400).toNat
  let (y, m, d) := civilFromDays days
  ⟨y, m, d, rest / 3600, rest / 60 % 60, rest % 60⟩

end Civil

namespace Instant

/-- The civil time shown in the instant's own zone. -/
def civil (t : Instant) : Civil := Civil.ofSeconds (t.seconds + t.offset)

/-- The same instant shown in UTC. -/
def utc (t : Instant) : Instant := { t with offset := 0 }

/-- Zero-padded decimal digits. -/
def pad (width : Nat) (n : Nat) : String :=
  let ds := Nat.toDigits 10 n
  String.ofList (List.replicate (width - ds.length) '0' ++ ds)

/-- The nanoseconds as a fraction with trailing zeros removed, and no point when zero. -/
def fraction (nanos : Nat) : String :=
  if nanos = 0 then ""
  else
    let ds := (pad 9 nanos).toList
    "." ++ String.ofList (ds.reverse.dropWhile (· = '0')).reverse

/-- The zone as `Z` for UTC, else a signed `hh:mm`. -/
def zoneText (offset : Int) (utcMark : String := "Z") : String :=
  if offset = 0 then utcMark
  else
    let m := offset.natAbs / 60
    (if offset < 0 then "-" else "+") ++ pad 2 (m / 60) ++ ":" ++ pad 2 (m % 60)

/-- The year with at least four digits. -/
def yearText (y : Int) : String := if y < 0 then "-" ++ pad 4 y.natAbs else pad 4 y.toNat

/-- The date, `T`, the time of day with its fraction, and the zone. -/
def rfc3339 (t : Instant) : String :=
  let c := t.civil
  yearText c.year ++ "-" ++ pad 2 c.month ++ "-" ++ pad 2 c.day ++ "T" ++ pad 2 c.hour ++ ":" ++
    pad 2 c.minute ++ ":" ++ pad 2 c.second ++ fraction t.nanos ++ zoneText t.offset

/-- The date and the time of day to the second, separated by a space. -/
def dateTimeText (t : Instant) : String :=
  let c := t.civil
  yearText c.year ++ "-" ++ pad 2 c.month ++ "-" ++ pad 2 c.day ++ " " ++ pad 2 c.hour ++ ":" ++
    pad 2 c.minute ++ ":" ++ pad 2 c.second

/-- The instant a whole number of nanoseconds later. -/
def addNanos (t : Instant) (d : Int) : Instant :=
  let total := (t.nanos : Int) + d
  let s := total.fdiv 1000000000
  { t with seconds := t.seconds + s, nanos := (total - s * 1000000000).toNat }

/-- Nanoseconds from one instant to another. -/
def since (later earlier : Instant) : Int :=
  (later.seconds - earlier.seconds) * 1000000000 + (later.nanos : Int) - (earlier.nanos : Int)

end Instant
end PassPlan
