import PassPlan.Json.Basic
import PassPlan.Text.Quoted
/-!
Reading JSON text. The grammar is the standard one, and a syntax error is reported by the
first character that cannot continue the text, as "invalid character 'c' …" with what was
expected there, or "unexpected end of JSON input" when the text stops early.
-/
namespace PassPlan.Json

/-- The character of an error message: a byte shown in single quotes, with the escapes of
quoted text. A character beyond ASCII is shown by its first byte. -/
def quoteByte (c : Char) : String :=
  let b := if c.toNat < 0x80 then c else
    Char.ofNat (String.singleton c).toUTF8[0]!.toNat
  if b = '\'' then "'\\''"
  else if b = '"' then "'\"'"
  else
    let q := (Text.quote (String.singleton b)).toList
    "'" ++ String.ofList ((q.drop 1).dropLast) ++ "'"

/-- A syntax error at a character, with the context that expected something else. -/
def invalid (c : Char) (context : String) : String := "invalid character " ++ quoteByte c ++ " " ++ context

/-- The text stopped in the middle of a value. -/
def endOfInput : String := "unexpected end of JSON input"

/-- Blank characters between tokens. -/
def isSpace (c : Char) : Bool := c = ' ' || c = '\t' || c = '\n' || c = '\r'

/-- Skips blanks. -/
def skip (cs : List Char) : List Char := cs.dropWhile isSpace

/-- Reads a fixed word after its first letter. -/
def literal (word : String) (rest : List Char) : Except String (List Char) :=
  let rec go : List Char → List Char → Except String (List Char)
    | [], cs => .ok cs
    | w :: ws, c :: cs => if c = w then go ws cs
      else .error (invalid c ("in literal " ++ word ++ " (expecting " ++ quoteByte w ++ ")"))
    | _ :: _, [] => .error endOfInput
  go (word.toList.drop 1) rest

/-- The value of a hex digit. -/
def hexVal (c : Char) : Option Nat :=
  if '0' ≤ c && c ≤ '9' then some (c.toNat - '0'.toNat)
  else if 'a' ≤ c && c ≤ 'f' then some (c.toNat - 'a'.toNat + 10)
  else if 'A' ≤ c && c ≤ 'F' then some (c.toNat - 'A'.toNat + 10)
  else none

/-- Four hex digits of an escape. -/
def hex4 (cs : List Char) : Except String (Nat × List Char) :=
  let rec go : Nat → Nat → List Char → Except String (Nat × List Char)
    | 0, acc, cs => .ok (acc, cs)
    | n + 1, acc, c :: cs => match hexVal c with
      | some v => go n (acc * 16 + v) cs
      | none => .error (invalid c "in \\u hexadecimal character escape")
    | _ + 1, _, [] => .error endOfInput
  go 4 0 cs

/-- The replacement character for a code unit that is not a character. -/
def replacement : Char := Char.ofNat 0xFFFD

/-- Reads the characters of a string after its opening quote. -/
def readString (cs : List Char) : Except String (String × List Char) :=
  let rec go : Nat → List Char → List Char → Except String (String × List Char)
    | 0, _, _ => .error endOfInput
    | fuel + 1, acc, cs =>
      match cs with
      | [] => .error endOfInput
      | '"' :: rest => .ok (String.ofList acc.reverse, rest)
      | '\\' :: rest =>
        match rest with
        | [] => .error endOfInput
        | e :: rest =>
          match e with
          | '"' => go fuel ('"' :: acc) rest
          | '\\' => go fuel ('\\' :: acc) rest
          | '/' => go fuel ('/' :: acc) rest
          | 'b' => go fuel ('\x08' :: acc) rest
          | 'f' => go fuel ('\x0c' :: acc) rest
          | 'n' => go fuel ('\n' :: acc) rest
          | 'r' => go fuel ('\r' :: acc) rest
          | 't' => go fuel ('\t' :: acc) rest
          | 'u' =>
            match hex4 rest with
            | .error e => .error e
            | .ok (u, rest) =>
              if 0xD800 ≤ u && u < 0xDC00 then
                match rest with
                | '\\' :: 'u' :: rest' =>
                  match hex4 rest' with
                  | .ok (l, rest'') =>
                    if 0xDC00 ≤ l && l < 0xE000 then
                      go fuel (Char.ofNat (0x10000 + (u - 0xD800) * 0x400 + (l - 0xDC00)) :: acc) rest''
                    else go fuel (replacement :: acc) rest
                  | .error _ => go fuel (replacement :: acc) rest
                | _ => go fuel (replacement :: acc) rest
              else if 0xDC00 ≤ u && u < 0xE000 then go fuel (replacement :: acc) rest
              else go fuel (Char.ofNat u :: acc) rest
          | c => .error (invalid c "in string escape code")
      | c :: rest =>
        if c.toNat < 0x20 then .error (invalid c "in string literal")
        else go fuel (c :: acc) rest
  go (cs.length + 1) [] cs

/-- Reads digits. -/
def digits (cs : List Char) : List Char × List Char := (cs.takeWhile Char.isDigit, cs.dropWhile Char.isDigit)

/-- Reads the integer part of a number: a single zero or digits not starting with zero. -/
def readWhole : List Char → Except String (List Char × List Char)
  | '0' :: rest => .ok (['0'], rest)
  | c :: rest => if c.isDigit then .ok (digits (c :: rest)) else .error (invalid c "in numeric literal")
  | [] => .error endOfInput

/-- Reads an optional fraction: a point and at least one digit. -/
def readFraction : List Char → Except String (List Char × List Char)
  | '.' :: c :: rest =>
    if c.isDigit then
      let (ds, r) := digits (c :: rest)
      .ok ('.' :: ds, r)
    else .error (invalid c "after decimal point in numeric literal")
  | ['.'] => .error endOfInput
  | cs => .ok ([], cs)

/-- Reads the digits of an exponent after its optional sign. -/
def readExponentDigits : List Char → Except String (List Char × List Char)
  | c :: rest =>
    if c.isDigit then .ok (digits (c :: rest)) else .error (invalid c "in exponent of numeric literal")
  | [] => .error endOfInput

/-- Reads an optional exponent: a letter e, an optional sign and at least one digit. -/
def readExponent : List Char → Except String (List Char × List Char)
  | e :: rest =>
    if e = 'e' || e = 'E' then
      match rest with
      | '+' :: r => (readExponentDigits r).map fun (ds, r) => (e :: '+' :: ds, r)
      | '-' :: r => (readExponentDigits r).map fun (ds, r) => (e :: '-' :: ds, r)
      | r => (readExponentDigits r).map fun (ds, r) => (e :: ds, r)
    else .ok ([], e :: rest)
  | [] => .ok ([], [])

/-- Reads a number starting with a digit or the minus sign. -/
def readNumber (cs : List Char) : Except String (String × List Char) := do
  let (sign, cs) := match cs with
    | '-' :: rest => (['-'], rest)
    | _ => ([], cs)
  let (whole, cs) ← readWhole cs
  let (frac, cs) ← readFraction cs
  let (expo, cs) ← readExponent cs
  pure (String.ofList (sign ++ whole ++ frac ++ expo), cs)

/-- Reads one value and what follows it. Every step consumes a character, so fuel of the
text's length suffices. -/
def readValue : Nat → List Char → Except String (Json × List Char)
  | 0, _ => .error endOfInput
  | fuel + 1, cs =>
    match skip cs with
    | [] => .error endOfInput
    | c :: rest =>
      match c with
      | '{' =>
        match skip rest with
        | '}' :: rest => .ok (.obj [], rest)
        | _ => readMembers fuel [] rest
      | '[' =>
        match skip rest with
        | ']' :: rest => .ok (.arr [], rest)
        | _ => readElements fuel [] rest
      | '"' => do let (s, r) ← readString rest; pure (.str s, r)
      | 't' => do let r ← literal "true" rest; pure (.bool true, r)
      | 'f' => do let r ← literal "false" rest; pure (.bool false, r)
      | 'n' => do let r ← literal "null" rest; pure (.null, r)
      | c =>
        if c = '-' || c.isDigit then do let (t, r) ← readNumber (c :: rest); pure (.num t, r)
        else .error (invalid c "looking for beginning of value")
where
  /-- Reads object members after the opening brace or a comma. -/
  readMembers : Nat → List (String × Json) → List Char → Except String (Json × List Char)
    | 0, _, _ => .error endOfInput
    | fuel + 1, acc, cs =>
      match skip cs with
      | [] => .error endOfInput
      | '"' :: rest => do
        let (k, rest) ← readString rest
        match skip rest with
        | [] => throw endOfInput
        | ':' :: rest =>
          let (v, rest) ← readValue fuel rest
          match skip rest with
          | ',' :: rest => readMembers fuel ((k, v) :: acc) rest
          | '}' :: rest => pure (.obj ((k, v) :: acc).reverse, rest)
          | c :: _ => throw (invalid c "after object key:value pair")
          | [] => throw endOfInput
        | c :: _ => throw (invalid c "after object key")
      | c :: _ => .error (invalid c "looking for beginning of object key string")
  /-- Reads array elements after the opening bracket or a comma. -/
  readElements : Nat → List Json → List Char → Except String (Json × List Char)
    | 0, _, _ => .error endOfInput
    | fuel + 1, acc, cs => do
      let (v, rest) ← readValue fuel cs
      match skip rest with
      | ',' :: rest => readElements fuel (v :: acc) rest
      | ']' :: rest => pure (.arr (v :: acc).reverse, rest)
      | c :: _ => throw (invalid c "after array element")
      | [] => throw endOfInput

/-- Reads a whole text as one JSON value. -/
def parse (s : String) : Except String Json := do
  let cs := s.toList
  let (v, rest) ← readValue (2 * cs.length + 2) cs
  match skip rest with
  | [] => pure v
  | c :: _ => throw (invalid c "after top-level value")

end PassPlan.Json
