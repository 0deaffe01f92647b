import PassPlan.Text.Letter
/-!
Masking what changes from one run to the next, so that two runs of the program can be
compared as text. In order: the workspace directory becomes `$TMP`; a date and time in the
interchange form (`2006-01-02T15:04:05`, with optional fraction and zone) becomes `<time>`; a
date and time with a blank between them becomes `YYYY-MM-DD hh:mm:ss`; a `"duration_ms"` member's
number becomes 0; a millisecond count with two decimals becomes `N.NNms`; and the value after
`duration=` becomes `<d>`. Log files also have every duration (`1.5ms`, `20s`) masked as
`<dur>`.

Each mask scans the text from the left and replaces the first match at each place, taking the
longest form the pattern allows there.
-/
namespace PassPlan.Present

/-- Reads `n` decimal digits. -/
def digitsExactly : Nat → List Char → Option (List Char)
  | 0, cs => some cs
  | n + 1, c :: cs => if c.isDigit then digitsExactly n cs else none
  | _ + 1, [] => none

/-- Reads one or more decimal digits. -/
def digitsSome (cs : List Char) : Option (List Char) :=
  match cs with
  | c :: _ => if c.isDigit then some (cs.dropWhile Char.isDigit) else none
  | [] => none

/-- Reads one character. -/
def literal (c : Char) : List Char → Option (List Char)
  | d :: cs => if c = d then some cs else none
  | [] => none

/-- Reads a run of characters. -/
def literalText (s : String) (cs : List Char) : Option (List Char) :=
  if s.toList.isPrefixOf cs then some (cs.drop s.length) else none

/-- Reads an optional part: the longest reading when the part is there. -/
def optionally (part : List Char → Option (List Char)) (cs : List Char) : List Char := (part cs).getD cs

/-- Reads a date and time in the interchange form with an optional fraction and zone. -/
def stampT (cs : List Char) : Option (List Char) := do
  let cs ← digitsExactly 4 cs
  let cs ← literal '-' cs
  let cs ← digitsExactly 2 cs
  let cs ← literal '-' cs
  let cs ← digitsExactly 2 cs
  let cs ← literal 'T' cs
  let cs ← digitsExactly 2 cs
  let cs ← literal ':' cs
  let cs ← digitsExactly 2 cs
  let cs ← literal ':' cs
  let cs ← digitsExactly 2 cs
  let cs := optionally (fun cs => literal '.' cs >>= digitsSome) cs
  pure (optionally (fun cs =>
    match cs with
    | 'Z' :: rest => some rest
    | s :: rest => if s = '+' || s = '-' then
        (digitsExactly 2 rest >>= literal ':' >>= digitsExactly 2) else none
    | [] => none) cs)

/-- Reads a date and time with a blank between them. -/
def stampBlank (cs : List Char) : Option (List Char) := do
  let cs ← digitsExactly 4 cs
  let cs ← literal '-' cs
  let cs ← digitsExactly 2 cs
  let cs ← literal '-' cs
  let cs ← digitsExactly 2 cs
  let cs ← literal ' ' cs
  let cs ← digitsExactly 2 cs
  let cs ← literal ':' cs
  let cs ← digitsExactly 2 cs
  let cs ← literal ':' cs
  digitsExactly 2 cs

/-- Reads a `"duration_ms"` member with its number. -/
def durationMember (cs : List Char) : Option (List Char) := do
  let cs ← literalText "\"duration_ms\": " cs
  let cs := optionally (literal '-') cs
  let number (c : Char) : Bool := c.isDigit || c = '.' || c = 'e' || c = '+' || c = '-'
  match cs with
  | c :: _ => if number c then some (cs.dropWhile number) else none
  | [] => none

/-- Reads a millisecond count with two decimals. -/
def millisTwo (cs : List Char) : Option (List Char) := do
  let cs ← digitsSome cs
  let cs ← literal '.' cs
  let cs ← digitsExactly 2 cs
  literalText "ms" cs

/-- Reads `duration=` and the word after it. -/
def durationField (cs : List Char) : Option (List Char) := do
  let cs ← literalText "duration=" cs
  match cs with
  | c :: _ => if c.isWhitespace then none else some (cs.dropWhile fun c => !c.isWhitespace)
  | [] => none

/-- Whether a character is part of a word. -/
def wordChar (c : Char) : Bool := c.isAlphanum || c = '_' || Text.isLetter c || Text.isDecimalDigit c

/-- Reads a duration: a number, an optional fraction and a unit, ending a word. -/
def durationWord (cs : List Char) : Option (List Char) :=
  let units := ["ns", "µs", "us", "ms", "s", "m", "h"]
  let ended (rest : List Char) : Bool := match rest with
    | c :: _ => !wordChar c
    | [] => true
  let withUnit (cs : List Char) : Option (List Char) :=
    units.findSome? fun u => (literalText u cs).bind fun rest => if ended rest then some rest else none
  match digitsSome cs with
  | none => none
  | some afterWhole =>
    match (literal '.' afterWhole >>= digitsSome) with
    | some afterFraction =>
      match withUnit afterFraction with
      | some rest => some rest
      | none => withUnit afterWhole
    | none => withUnit afterWhole

/-- Replaces every match of a reader, scanning from the left; `wordStart` asks that a match
begin a word. -/
def maskWith (read : List Char → Option (List Char)) (replacement : String) (wordStart : Bool) (s : String) :
    String :=
  let rec go (fuel : Nat) (prev : Option Char) (cs : List Char) (acc : List Char) : List Char :=
    match fuel, cs with
    | 0, _ => acc.reverse ++ cs
    | _, [] => acc.reverse
    | fuel + 1, c :: rest =>
      let boundary := !wordStart || !((prev.map wordChar).getD false)
      match (if boundary then read cs else none) with
      | some after =>
        if after.length < cs.length then
          go fuel ((cs.take (cs.length - after.length)).getLast?) after (replacement.toList.reverse ++ acc)
        else go fuel (some c) rest (c :: acc)
      | none => go fuel (some c) rest (c :: acc)
  String.ofList (go (s.length + 1) none s.toList [])

/-- Masks what changes between runs in the program's output. -/
def stableText (root : String) (s : String) : String :=
  let s := s.replace root "$TMP"
  let s := maskWith stampT "<time>" false s
  let s := maskWith stampBlank "YYYY-MM-DD hh:mm:ss" false s
  let s := maskWith durationMember "\"duration_ms\": 0" false s
  let s := maskWith millisTwo "N.NNms" false s
  maskWith durationField "duration=<d>" false s

/-- Masks what changes between runs in a log file: also every duration. -/
def stableLog (root : String) (s : String) : String :=
  maskWith durationWord "<dur>" true (stableText root s)

end PassPlan.Present
