import PassPlan.Text.Printable
/-!
Quoted text: a string between double quotes, with backslash escapes for the quote, the
backslash, the seven control characters that have a letter, and every other character that is
not printable (as two, four or eight hex digits).
-/
namespace PassPlan.Text

/-- Hex digits of a number, lower case, padded with zeros to the given width. -/
def hexPad (width n : Nat) : String :=
  let ds := Nat.toDigits 16 n
  String.ofList (List.replicate (width - ds.length) '0' ++ ds)

/-- The written form of one character inside quotes. -/
def quoteChar (c : Char) : String :=
  match c with
  | '"' => "\\\""
  | '\\' => "\\\\"
  | '\x07' => "\\a"
  | '\x08' => "\\b"
  | '\x0c' => "\\f"
  | '\n' => "\\n"
  | '\r' => "\\r"
  | '\t' => "\\t"
  | '\x0b' => "\\v"
  | c =>
    if isPrintable c then c.toString
    else if c.toNat < 0x80 then "\\x" ++ hexPad 2 c.toNat
    else if c.toNat < 0x10000 then "\\u" ++ hexPad 4 c.toNat
    else "\\U" ++ hexPad 8 c.toNat

/-- A string in double quotes with its escapes. -/
def quote (s : String) : String :=
  "\"" ++ String.join (s.toList.map quoteChar) ++ "\""

end PassPlan.Text
