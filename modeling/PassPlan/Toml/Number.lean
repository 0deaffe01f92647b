import PassPlan.Toml.Basic
import PassPlan.Value.Numeral
/-!
Numbers and moments in TOML text. A number runs over digits, signs, underscores, points and
exponent marks; it is an integer unless it has a point or an exponent. An integer is decimal
without leading zeros, or hexadecimal, octal or binary after `0x`, `0o` or `0b`, and fits in
64 bits. A float has digits on both sides of its point, no leading zeros, and a value a double
can hold; `inf` and `nan` may carry a sign. Underscores stand between digits only.

A value whose first digits are followed by `:` (a time) or `-` (a date) is a moment: a date
`YYYY-MM-DD`, a time `HH:MM:SS` with an optional fraction, or a date and a time apart by `T` or
a space, with an offset `Z` or `±HH:MM` or none. Dates must exist; hours run to 23, minutes to
59, seconds to 60.
-/
namespace PassPlan.Toml

/-- What a moment holds, as the characters it runs over show. -/
inductive MomentKind where
  | dateTime
  | localDateTime
  | localDate
  | localTime

/-- What the characters of a moment show so far: a date, a time, an offset, and a space seen. -/
structure MomentMarks where
  date : Bool := false
  time : Bool := false
  zone : Bool := false
  space : Bool := false

/-- Takes the characters of a moment: digits, `-`, `T`, `:`, `.`, `+`, one `Z` that ends it, and
one space before a digit, which takes the digit and the character after it. Gives how many
characters it takes and what they show; none when a space and a digit end the text. -/
def scanMoment : List Char → Nat → MomentMarks → Option (Nat × MomentMarks)
  | [], i, m => some (i, m)
  | c :: rest, i, m =>
    if c.isDigit then scanMoment rest (i + 1) m
    else if c = '-' then scanMoment rest (i + 1) { m with date := true, zone := m.zone || i ≥ 8 }
    else if c = 'T' || c = 't' || c = ':' || c = '.' then scanMoment rest (i + 1) { m with time := true }
    else if c = '+' then scanMoment rest (i + 1) { m with zone := true }
    else if c = 'Z' || c = 'z' then some (i + 1, { m with zone := true })
    else if c = ' ' then
      match rest with
      | d :: more =>
        if !m.space && d.isDigit then
          match more with
          | _ :: after => scanMoment after (i + 3) { m with space := true, time := true }
          | [] => none
        else some (i, m)
      | [] => some (i, m)
    else some (i, m)

/-- The kind of moment the marks show. -/
def MomentMarks.kind (m : MomentMarks) : MomentKind :=
  if m.time then
    if m.date then (if m.zone then .dateTime else .localDateTime) else .localTime
  else .localDate

/-- Reads digits that must all be decimal digits. -/
def decimalDigits (cs : List Char) : Option Nat :=
  if cs.all Char.isDigit then some (cs.foldl (fun a c => a * 10 + (c.toNat - 48)) 0) else none

/-- Reads a date `YYYY-MM-DD` that exists, the whole text. -/
def readDate (cs : List Char) : Option (Int × Nat × Nat) :=
  if cs.length = 10 && cs[4]? = some '-' && cs[7]? = some '-' then do
    let y ← decimalDigits (cs.take 4)
    let m ← decimalDigits ((cs.drop 5).take 2)
    let d ← decimalDigits ((cs.drop 8).take 2)
    if 0 < m && m < 13 && 0 < d && d ≤ Civil.monthDays y m then some (y, m, d) else none
  else none

/-- The nanoseconds of the digits of a fraction: the first nine count, the rest are dropped. -/
def fractionNanos (ds : List Char) : Nat :=
  let kept := ds.take 9
  (decimalDigits kept).getD 0 * Nat.pow 10 (9 - kept.length)

/-- Reads a time `HH:MM:SS` with an optional fraction at the start of a text, and the rest. -/
def readTime (cs : List Char) : Option ((Nat × Nat × Nat × Nat) × List Char) :=
  if cs.length < 8 || cs[2]? ≠ some ':' || cs[5]? ≠ some ':' then none
  else do
    let h ← decimalDigits (cs.take 2)
    let mi ← decimalDigits ((cs.drop 3).take 2)
    let s ← decimalDigits ((cs.drop 6).take 2)
    if h > 23 || mi > 59 || s > 60 then none
    else
      match cs.drop 8 with
      | '.' :: rest =>
        let ds := rest.takeWhile Char.isDigit
        if ds.isEmpty then none else some ((h, mi, s, fractionNanos ds), rest.drop ds.length)
      | rest => some ((h, mi, s, 0), rest)

/-- Reads a date and a time apart by `T` or a space at the start of a text, and the rest. -/
def readDateTime (cs : List Char) : Option (Moment × List Char) :=
  if cs.length < 11 then none
  else do
    let date ← readDate (cs.take 10)
    let sep := cs[10]?
    if sep = some 'T' || sep = some 't' || sep = some ' ' then
      let (time, rest) ← readTime (cs.drop 11)
      some ({ date := some date, time := some time }, rest)
    else none

/-- Reads an offset: `Z`, or a sign and `HH:MM` with hours to 23 and minutes to 59, in seconds
east of UTC; the whole text. -/
def readOffset : List Char → Option Int
  | ['Z'] | ['z'] => some 0
  | [s, h1, h2, ':', m1, m2] => do
    let h ← decimalDigits [h1, h2]
    let m ← decimalDigits [m1, m2]
    if h > 23 || m > 59 then none
    else if s = '+' then some ((h * 3600 + m * 60 : Nat) : Int)
    else if s = '-' then some (-((h * 3600 + m * 60 : Nat) : Int))
    else none
  | _ => none

/-- Reads the text of a moment of a kind. -/
def readMoment (kind : MomentKind) (cs : List Char) : Option Moment :=
  match kind with
  | .localDate => (readDate cs).map fun d => { date := some d }
  | .localTime => match readTime cs with
    | some (t, []) => some { time := some t }
    | _ => none
  | .localDateTime => match readDateTime cs with
    | some (m, []) => some m
    | _ => none
  | .dateTime => do
    let (m, rest) ← readDateTime cs
    let off ← readOffset rest
    some { m with offset := some off }

/-- Takes a moment from the start of a text: the moment and the rest. -/
def moment (cs : List Char) : Except String (Datum × List Char) :=
  match scanMoment cs 0 {} with
  | none => .error "incomplete date or time"
  | some (n, marks) =>
    match readMoment marks.kind (cs.take n) with
    | some m => .ok (.moment m, cs.drop n)
    | none => .error "invalid date or time"

/-- Removes the underscores of an integer: none may open its digits, end it, or follow
another. -/
def intUnderscores (cs : List Char) : Option (List Char) :=
  let body := match cs with
    | '+' :: rest | '-' :: rest => rest
    | _ => cs
  if body.isEmpty then some cs
  else if body.head? = some '_' || cs.getLast? = some '_' then none
  else if (cs.zip cs.tail).any fun (a, b) => a = '_' && b = '_' then none
  else some (cs.filter (· ≠ '_'))

/-- The largest 64-bit integer plus one. -/
def intLimit : Nat := Nat.pow 2 63

/-- Reads an integer in a base with an optional sign, all of it, within 64 bits. -/
def signedInt (base : Nat) (cs : List Char) : Option Int :=
  let (neg, ds) := match cs with
    | '-' :: rest => (true, rest)
    | '+' :: rest => (false, rest)
    | _ => (false, cs)
  if ds.isEmpty then none
  else do
    let n ← ds.foldl (fun acc c => acc.bind fun a => (Numeral.digitValue base c).map (a * base + ·)) (some 0)
    if neg then (if n ≤ intLimit then some (-(n : Int)) else none)
    else if n < intLimit then some n else none

/-- Reads the text of an integer. -/
def readInt (cs : List Char) : Option Int :=
  match cs with
  | '0' :: b :: rest =>
    if !rest.isEmpty && (b = 'x' || b = 'o' || b = 'b') then do
      let ds ← intUnderscores rest
      signedInt (if b = 'x' then 16 else if b = 'o' then 8 else 2) ds
    else decimal
  | _ => decimal
where
  decimal : Option Int := do
    let ds ← intUnderscores cs
    let digits := match ds with
      | '+' :: rest | '-' :: rest => rest
      | _ => ds
    if digits.length > 1 && digits.head? = some '0' then none else signedInt 10 ds

/-- Removes the underscores of a float: each stands after a digit and before neither an
exponent mark nor a point, and none follows a sign, a point or an exponent mark. -/
def floatUnderscores : Option Char → Bool → List Char → Option (List Char)
  | _, _, [] => some []
  | prev, digitBefore, c :: rest =>
    let next := rest.head?
    if c = '_' then
      if !digitBefore || next = some 'e' || next = some 'E' || next = some '.' then none
      else floatUnderscores (some c) false rest
    else if c = '+' || c = '-' then (floatUnderscores (some c) false rest).map (c :: ·)
    else if c = 'e' || c = 'E' then
      if next = some '_' then none else (floatUnderscores (some c) digitBefore rest).map (c :: ·)
    else if c = '.' then
      if next = some '_' || prev = some '_' then none
      else (floatUnderscores (some c) digitBefore rest).map (c :: ·)
    else (floatUnderscores (some c) true rest).map (c :: ·)

/-- Whether every point of a float has a digit on each side, and there is at most one. -/
def pointsOk (cs : List Char) : Bool :=
  let points := (List.range cs.length).filter fun i => cs[i]? = some '.'
  points.length ≤ 1 && points.all fun i =>
    i > 0 && ((cs[i - 1]?.map Char.isDigit).getD false) && ((cs[i + 1]?.map Char.isDigit).getD false)

/-- Reads the text of a float. -/
def readFloat (cs : List Char) : Option Float :=
  match cs with
  | [s, 'n', 'a', 'n'] => if s = '+' || s = '-' then some (0.0 / 0.0) else none
  | _ => do
    if cs.head? = some '_' || cs.getLast? = some '_' then none
    let clean ← floatUnderscores none false cs
    if clean.head? = some '.' || clean.getLast? = some '.' || !pointsOk clean then none
    let digits := match clean with
      | '+' :: rest | '-' :: rest => rest
      | _ => clean
    if digits.head? = some '0' && ((digits[1]?.map Char.isDigit).getD false) then none
    Numeral.parseFloat (String.ofList clean)

/-- Takes the characters of a number from the start of a text: an integer with a base prefix
runs over that base's digits and underscores, a `0` before any other character is the whole
integer, and otherwise digits, signs, underscores, points, exponent marks and a closing `inf`
or `nan` make it; a point or an exponent mark makes it a float. -/
def scanNumber (cs : List Char) : Except String (List Char × Bool × List Char) :=
  match cs with
  | '0' :: b :: c :: rest =>
    if b = '.' || b = 'e' || b = 'E' then general
    else
      let digitOf : Option (Char → Bool) :=
        if b = 'x' then some fun d => (hexDigit? d).isSome || d = '_'
        else if b = 'o' then some fun d => ('0' ≤ d && d ≤ '7') || d = '_'
        else if b = 'b' then some fun d => d = '0' || d = '1' || d = '_'
        else none
      match digitOf with
      | some ok =>
        let ds := (c :: rest).takeWhile ok
        .ok ('0' :: b :: ds, false, (c :: rest).drop ds.length)
      | none => .ok (['0'], false, b :: c :: rest)
  | _ => general
where
  hexDigit? (d : Char) : Option Nat :=
    if d.isDigit || ('a' ≤ d && d ≤ 'f') || ('A' ≤ d && d ≤ 'F') then some 0 else none
  general : Except String (List Char × Bool × List Char) :=
    let body := cs.takeWhile fun c => c.isDigit || c = '+' || c = '-' || c = '_' || c = '.' || c = 'e' || c = 'E'
    let rest := cs.drop body.length
    let float := body.any fun c => c = '.' || c = 'e' || c = 'E'
    match rest with
    | 'i' :: _ =>
      if "inf".toList.isPrefixOf rest then .ok (body ++ "inf".toList, true, rest.drop 3)
      else .error "unexpected character 'i' while scanning for a number"
    | 'n' :: _ =>
      if "nan".toList.isPrefixOf rest then .ok (body ++ "nan".toList, true, rest.drop 3)
      else .error "unexpected character 'n' while scanning for a number"
    | _ => if body.isEmpty then .error "incomplete number" else .ok (body, float, rest)

/-- Takes a number from the start of a text. -/
def number (cs : List Char) : Except String (Datum × List Char) := do
  let (text, float, rest) ← scanNumber cs
  if float then
    match readFloat text with
    | some f => .ok (.float f, rest)
    | none => .error "invalid float"
  else
    match readInt text with
    | some i => .ok (.int i, rest)
    | none => .error "invalid integer"

/-- Takes a number or a moment from the start of a text: a moment when its first digits run
into a `:` at the third character or a `-` at the fifth. -/
def numberOrMoment (cs : List Char) : Except String (Datum × List Char) :=
  match cs with
  | 'i' :: _ =>
    if "inf".toList.isPrefixOf cs then .ok (.float (1.0 / 0.0), cs.drop 3) else .error "expected 'inf'"
  | 'n' :: _ =>
    if "nan".toList.isPrefixOf cs then .ok (.float (0.0 / 0.0), cs.drop 3) else .error "expected 'nan'"
  | '+' :: _ | '-' :: _ => number cs
  | _ =>
    let lead := (cs.take 5).takeWhile Char.isDigit
    let next := cs[lead.length]?
    if cs.length ≥ 3 && ((lead.length = 2 && next = some ':') || (lead.length = 4 && next = some '-'))
    then moment cs
    else number cs

end PassPlan.Toml
