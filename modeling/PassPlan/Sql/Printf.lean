import PassPlan.Sql.Value
/-!
The text of `printf` and `format`: a template whose `%` directives each take the next argument
and write it. A directive is flags (`-` pads on the right, `+` or a blank signs positive
numbers, `#` asks for the alternate form, `!` counts text in characters and keeps more digits
of reals, `0` pads numbers with zeros, `,` groups decimal digits by thousands), a width, a
precision after a point (either one may be `*`, taken from the arguments), optional `l`
length letters, and a conversion:

* `d` `i` `u` `r` `x` `X` `o` `p`: integers, signed or as 64-bit unsigned, in decimal, ordinal
  (`1st`), hexadecimal or octal; the precision is a least number of digits;
* `f` `e` `E` `g` `G`: reals with a fixed number of places, with an exponent, or whichever fits;
* `s` `z`: text, the precision its most bytes; `c`: the first character, repeated precision
  times; `q` `Q` `w`: text with quotes doubled, `Q` also quoted and `NULL` for no text;
* `%` a percent sign, `n` nothing.

Any other conversion, or the template ending inside a directive, ends the output there; a `%`
at the very end stands for itself. A missing argument reads as zero or as no text. Widths count
bytes, characters under `!`.
-/
namespace PassPlan.Sql

/-- The flags, width and precision of one directive. -/
structure Directive where
  /-- Pad on the right. -/
  left : Bool := false
  /-- The character in front of a number that is not negative. -/
  sign : Option Char := none
  /-- The alternate form: a radix in front of nonzero integers, a point on every real. -/
  alt : Bool := false
  /-- Count text in characters; keep up to twenty-six digits of a real. -/
  chars : Bool := false
  /-- Pad numbers with zeros after their sign. -/
  zero : Bool := false
  /-- Group decimal digits by thousands. -/
  thousands : Bool := false
  width : Nat := 0
  precision : Option Nat := none
deriving Inhabited

/-- A 64-bit integer cut to its low 32 bits, as a signed number. -/
def toInt32 (i : Int) : Int :=
  let w := i % 4294967296
  if w ≥ 2147483648 then w - 4294967296 else w

/-- The next argument as an integer; zero when none is left. -/
def takeInt : List Value → Int × List Value
  | v :: rest => (v.toInt, rest)
  | [] => (0, [])

/-- The next argument as a real; zero when none is left. -/
def takeReal : List Value → Float × List Value
  | v :: rest => (v.toReal, rest)
  | [] => (0, [])

/-- The next argument as text up to its first zero character; none for null or when none is
left. -/
def takeText : List Value → Option String × List Value
  | v :: rest => (if v.isNull then none else some (String.ofList (v.toText.toList.takeWhile (· ≠ '\x00'))), rest)
  | [] => (none, [])

/-- A number written in decimal digits, with the characters after it; the number keeps its low
31 bits. -/
def readCount (cs : List Char) : Nat × List Char :=
  let (ds, rest) := cs.span Char.isDigit
  (ds.foldl (fun a c => (a * 10 + (c.toNat - '0'.toNat)) % 4294967296) 0 % 2147483648, rest)

/-- Reads a directive from the character after `%`: its flags, width and precision, the
conversion character (none when the template ends first), what follows it, and the arguments
left once starred widths and precisions took theirs. -/
def readDirective : Nat → Directive → Char → List Char → List Value →
    Directive × Option Char × List Char × List Value
  | 0, d, c, rest, args => (d, some c, rest, args)
  | fuel + 1, d, c, rest, args =>
    let next (d : Directive) : Directive × Option Char × List Char × List Value :=
      match rest with
      | c' :: more => readDirective fuel d c' more args
      | [] => (d, none, [], args)
    -- after a width, a point or a length letter may still follow
    let afterWidth (d : Directive) (cs : List Char) (args : List Value) :
        Directive × Option Char × List Char × List Value :=
      match cs with
      | c' :: more => if c' = '.' || c' = 'l' then readDirective fuel d c' more args else (d, some c', more, args)
      | [] => (d, none, [], args)
    match c with
    | '-' => next { d with left := true }
    | '+' => next { d with sign := some '+' }
    | ' ' => next { d with sign := some ' ' }
    | '#' => next { d with alt := true }
    | '!' => next { d with chars := true }
    | '0' => next { d with zero := true }
    | ',' => next { d with thousands := true }
    | 'l' =>
      match rest with
      | 'l' :: c' :: more => (d, some c', more, args)
      | 'l' :: [] => (d, none, [], args)
      | c' :: more => (d, some c', more, args)
      | [] => (d, none, [], args)
    | '*' =>
      let (w, args) := takeInt args
      let w := toInt32 w
      let d := if w < 0 then { d with left := true, width := if w ≥ -2147483647 then w.natAbs else 0 }
        else { d with width := w.toNat }
      afterWidth d rest args
    | '.' =>
      let (p, more, args) : Option Nat × List Char × List Value :=
        match rest with
        | '*' :: more =>
          let (p, args) := takeInt args
          let p := toInt32 p
          (if p ≥ 0 then some p.toNat else if p ≥ -2147483647 then some p.natAbs else none, more, args)
        | cs => let (n, more) := readCount cs; (some n, more, args)
      let d := { d with precision := p }
      match more with
      | 'l' :: more' => readDirective fuel d 'l' more' args
      | c' :: more' => (d, some c', more', args)
      | [] => (d, none, [], args)
    | c =>
      if '1' ≤ c && c ≤ '9' then
        let (n, more) := readCount (c :: rest)
        afterWidth { d with width := n } more args
      else (d, some c, rest, args)

/-- Text padded with blanks to the directive's width, on the side the directive asks for; the
width counts characters or bytes. -/
def padded (d : Directive) (chars : Bool) (s : String) : String :=
  let len := if chars then s.length else s.utf8ByteSize
  if d.width > len then
    let blanks := String.ofList (List.replicate (d.width - len) ' ')
    if d.left then s ++ blanks else blanks ++ s
  else s

/-- The suffix of an ordinal number: `st`, `nd` and `rd` after a last digit of one, two or
three outside the teens, `th` otherwise. -/
def ordinalSuffix (n : Nat) : List Char :=
  if n % 10 ≥ 4 || n / 10 % 10 = 1 then ['t', 'h']
  else match n % 10 with
    | 1 => ['s', 't']
    | 2 => ['n', 'd']
    | 3 => ['r', 'd']
    | _ => ['t', 'h']

/-- Characters grouped by threes from the right with commas between the groups. -/
def groupThousands (cs : List Char) : List Char :=
  let rec go : Nat → List Char → List (List Char)
    | 0, _ => []
    | _, [] => []
    | fuel + 1, xs => xs.take 3 :: go fuel (xs.drop 3)
  List.intercalate [','] ((go cs.length cs.reverse).map List.reverse).reverse

/-- The digit characters of a number in a base, upper-case letters or lower. -/
def radixDigits (base : Nat) (upper : Bool) (n : Nat) : List Char :=
  (Nat.toDigits base n).map fun c => if upper then c.toUpper else c

/-- An integer conversion: the magnitude in its base with the ordinal suffix when asked,
zeros up to the precision (up to the width under the zero flag), the thousands grouping,
then the sign and, in the alternate form of a nonzero number, the radix in front. Unsigned
conversions read a negative number as its 64-bit two's complement. -/
def integerPiece (d : Directive) (signed : Bool) (base : Nat) (upper : Bool) (radix : List Char)
    (ordinal thousands : Bool) (v : Int) : String :=
  let (mag, sign) : Nat × Option Char :=
    if signed then (if v < 0 then (v.natAbs, some '-') else (v.toNat, d.sign))
    else ((v % 18446744073709551616).toNat, none)
  let prec : Int := match d.precision with
    | some p => p
    | none => -1
  let signWidth : Int := if sign.isSome then 1 else 0
  let prec := if d.zero && prec < (d.width : Int) - signWidth then (d.width : Int) - signWidth else prec
  let digits := radixDigits base upper mag ++ (if ordinal then ordinalSuffix mag else [])
  let digits := List.replicate (prec.toNat - digits.length) '0' ++ digits
  let digits := if thousands then groupThousands digits else digits
  String.ofList ((if d.alt && mag ≠ 0 then radix else []) ++ sign.toList ++ digits)

/-- The three ways a real is written: with a fixed number of places, with an exponent, or
whichever of the two suits its size. -/
inductive RealStyle where
  | fixed
  | exponent
  | general
deriving DecidableEq

/-- The digits a real is written with. The magnitude is first scaled to an integer of eighteen
or nineteen digits, the largest not above `9223372036854774784`. A positive `round` keeps that
many significant digits, at most `most`; otherwise it keeps the digits down to `-round` places
after the point, a magnitude that rounds to nothing at the place above its first digit either
becoming one unit there or keeping its digits unrounded. Rounding is half up on the next
digit; trailing zeros are dropped. -/
def decodeReal (x : Decimal.Binary) (round : Int) (most : Nat) : Decimal.Digits :=
  let e := Decimal.decimalExponent x
  let v := Decimal.floorDiv x.mant x.exp (e - 18)
  let (v, scale) := if v > 9223372036854774784 then (Decimal.floorDiv x.mant x.exp (e - 17), 17 - e)
    else (v, 18 - e)
  let ds := Decimal.natDigits v
  let point : Int := (ds.length : Int) - scale
  let (ds, point, round) : List Nat × Int × Int :=
    if round ≤ 0 then
      let r := point - round
      if r = 0 && ds.headD 0 ≥ 5 then (0 :: ds, point + 1, 1) else (ds, point, r)
    else (ds, point, round)
  let (ds, point) : List Nat × Int :=
    if round > 0 && (round < ds.length || ds.length > most) then
      let k := min round.toNat most
      let m := (ds.take k).foldl (fun a d => a * 10 + d) 0 + (if ds.getD k 0 ≥ 5 then 1 else 0)
      let out := Decimal.natDigits m
      (out, point + ((out.length : Int) - k))
    else (ds, point)
  ⟨Decimal.trimZeros ds, point⟩

/-- A real conversion. The precision, six by default, counts places after the point, digits
after the first in exponent form, or significant digits in the general form, which takes the
exponent form when the exponent is below -4 or not below the precision and drops trailing
zeros unless in the alternate form. Infinities are written `Inf` (with the sign asked for), or
under the zero flag as a 9 with a thousand places; not-a-number is `NaN`, or `null` under the
zero flag. -/
def realPiece (d : Directive) (style : RealStyle) (upper : Bool) (r : Float) : String :=
  let p0 := d.precision.getD 6
  let (p0, round) : Nat × Int := match style with
    | .fixed => (p0, -(p0 : Int))
    | .exponent => (p0, (p0 : Int) + 1)
    | .general => (max p0 1, (max p0 1 : Nat))
  let (neg, e, frac) := Decimal.fields r
  if e = 2047 && frac ≠ 0 then (if d.zero then "null" else "NaN")
  else if e = 2047 && !d.zero then
    if neg then "-Inf" else String.ofList (d.sign.toList ++ ['I', 'n', 'f'])
  else
    let ds : Decimal.Digits :=
      if e = 2047 then ⟨[9], 1000⟩
      else if e = 0 && frac = 0 then ⟨[0], 1⟩
      else decodeReal (Decimal.Binary.ofFields e frac) round (if d.chars then 26 else 16)
    let sign : Option Char := if neg && !(e = 0 && frac = 0) then some '-' else d.sign
    let exp := ds.point - 1
    let (style, places, trim) : RealStyle × Nat × Bool := match style with
      | .general =>
        if exp < -4 || exp > ((p0 - 1 : Nat) : Int) then (.exponent, p0 - 1, !d.alt)
        else (.fixed, (((p0 - 1 : Nat) : Int) - exp).toNat, !d.alt)
      | s => (s, p0, d.chars)
    let e2 : Int := if style = .exponent then 0 else exp
    let point := places > 0 || d.alt || d.chars
    let digit (i : Nat) : Char := Decimal.digitChar (ds.digits.getD i 0)
    let whole : List Char :=
      if e2 < 0 then ['0']
      else (List.range (e2.toNat + 1)).flatMap fun i =>
        let above := e2.toNat - i
        if d.thousands && above % 3 = 0 && above > 1 then [digit i, ','] else [digit i]
    let used := if e2 < 0 then 0 else e2.toNat + 1
    let zeros := if e2 < 0 then min ds.point.natAbs places else 0
    let body := whole ++ (if point then ['.'] else []) ++ List.replicate zeros '0' ++
      (List.range (places - zeros)).map fun i => digit (used + i)
    let body :=
      if trim && point then
        let b := body.reverse.dropWhile (· = '0')
        match b with
        | '.' :: rest => if d.chars then ('0' :: '.' :: rest).reverse else rest.reverse
        | b => b.reverse
      else body
    let x := exp.natAbs
    let suffix : List Char :=
      if style = .exponent then
        (if upper then 'E' else 'e') :: (if exp < 0 then '-' else '+') ::
          ((if x ≥ 100 then [Decimal.digitChar (x / 100)] else []) ++
            [Decimal.digitChar (x % 100 / 10), Decimal.digitChar (x % 10)])
      else []
    let text := sign.toList ++ body ++ suffix
    if d.zero && !d.left && text.length < d.width then
      let pad := List.replicate (d.width - text.length) '0'
      String.ofList (match sign with
        | some c => c :: pad ++ text.drop 1
        | none => pad ++ text)
    else String.ofList text

/-- Text with a quote character doubled, cut to the precision in bytes (in characters under
`!`), and enclosed in quotes when asked. -/
def escapedPiece (d : Directive) (quote : Char) (enclose : Bool) (s : Option String) : String :=
  let body := match s with
    | some t => t
    | none => if enclose then "NULL" else "(NULL)"
  let body := cut d body
  let doubled := body.toList.flatMap fun c => if c = quote then [c, c] else [c]
  let enclose := enclose && s.isSome
  String.ofList ((if enclose then [quote] else []) ++ doubled ++ (if enclose then [quote] else []))
where
  /-- Text cut to the precision. -/
  cut (d : Directive) (t : String) : String :=
    match d.precision with
    | none => t
    | some p => if d.chars then String.ofList (t.toList.take p) else bytesText ((textBytes t).take p)

/-- The output of one conversion, padded to its width, and the arguments it leaves; none when
the conversion ends the output. -/
def convert (d : Directive) (k : Char) (args : List Value) : Option (String × List Value) :=
  let int (signed : Bool) (base : Nat) (upper : Bool) (radix : List Char) (ordinal thousands : Bool) :=
    let (v, rest) := takeInt args
    some (padded d false (integerPiece d signed base upper radix ordinal thousands v), rest)
  let real (style : RealStyle) (upper : Bool) :=
    let (v, rest) := takeReal args
    some (padded d false (realPiece d style upper v), rest)
  let escaped (quote : Char) (enclose : Bool) :=
    let (s, rest) := takeText args
    some (padded d d.chars (escapedPiece d quote enclose s), rest)
  match k with
  | 'd' | 'i' => int true 10 false [] false d.thousands
  | 'u' => int false 10 false [] false d.thousands
  | 'r' => int true 10 false [] true false
  | 'x' => int false 16 false ['0', 'x'] false false
  | 'X' => int false 16 true ['0', 'X'] false false
  | 'o' => int false 8 false ['0'] false false
  | 'p' => int false 16 true ['0', 'x'] false false
  | 'f' => real .fixed false
  | 'e' => real .exponent false
  | 'E' => real .exponent true
  | 'g' => real .general false
  | 'G' => real .general true
  | 's' | 'z' =>
    let (s, rest) := takeText args
    some (padded d d.chars (escapedPiece.cut d (s.getD "")), rest)
  | 'q' => escaped '\'' false
  | 'Q' => escaped '\'' true
  | 'w' => escaped '"' false
  | 'c' =>
    let (s, rest) := takeText args
    let c := ((s.getD "").toList.headD '\x00')
    let times := max 1 (d.precision.getD 1)
    some (padded d true (String.ofList (List.replicate times c)), rest)
  | '%' => some (padded d false "%", args)
  | 'n' => some ("", args)
  | _ => none

/-- The largest text a conversion may make. -/
def textLimit : Nat := 1000000000

/-- Writes a template with its arguments after the output so far. -/
def formatWith : Nat → List Char → List Value → String → Except String String
  | 0, _, _, out => .ok out
  | fuel + 1, cs, args, out =>
    match cs with
    | [] => .ok out
    | '%' :: [] => .ok (out.push '%')
    | '%' :: c :: more =>
      let (d, conv, more, args) := readDirective (more.length + 1) {} c more args
      match conv with
      | none => .ok out
      | some k =>
        let textual := ['s', 'z', 'q', 'Q', 'w'].contains k
        if d.width ≥ textLimit || (!textual && d.precision.getD 0 ≥ textLimit) then
          .error "string or blob too big"
        else
          match convert d k args with
          | none => .ok out
          | some (piece, args) => formatWith fuel more args (out ++ piece)
    | cs =>
      let (lit, rest) := cs.span (· ≠ '%')
      formatWith fuel rest args (out ++ String.ofList lit)

/-- The text of a template with its arguments; the template is read up to a zero character. -/
def formatText (template : String) (args : List Value) : Except String String :=
  let cs := template.toList.takeWhile (· ≠ '\x00')
  formatWith (cs.length + 1) cs args ""

end PassPlan.Sql
