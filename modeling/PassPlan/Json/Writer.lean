import PassPlan.Json.Basic
/-!
Writing JSON text: compact, or indented by two spaces per level with a final newline. Strings
escape the quote, the backslash and control characters, and the indented form also escapes
`<`, `>` and `&` and the two Unicode line separators, so the text is safe inside markup.
-/
namespace PassPlan.Json

/-- Four hex digits, lower case. -/
def hex4Text (n : Nat) : String :=
  let ds := Nat.toDigits 16 n
  String.ofList (List.replicate (4 - ds.length) '0' ++ ds)

/-- The escaped form of one character; `html` also escapes markup characters. -/
def escapeChar (html : Bool) (c : Char) : String :=
  match c with
  | '"' => "\\\""
  | '\\' => "\\\\"
  | '\x08' => "\\b"
  | '\x0c' => "\\f"
  | '\n' => "\\n"
  | '\r' => "\\r"
  | '\t' => "\\t"
  | c =>
    if c.toNat < 0x20 then "\\u" ++ hex4Text c.toNat
    else if html && (c = '<' || c = '>' || c = '&') then "\\u" ++ hex4Text c.toNat
    else if c.toNat = 0x2028 || c.toNat = 0x2029 then "\\u" ++ hex4Text c.toNat
    else c.toString

/-- A quoted JSON string. -/
def quoteString (html : Bool) (s : String) : String :=
  "\"" ++ String.join (s.toList.map (escapeChar html)) ++ "\""

mutual
/-- Compact text. -/
def compact : Json → String
  | .null => "null"
  | .bool b => if b then "true" else "false"
  | .num t => t
  | .str s => quoteString false s
  | .arr xs => "[" ++ ",".intercalate (compactList xs) ++ "]"
  | .obj kvs => "\x7b" ++ ",".intercalate (compactMembers kvs) ++ "\x7d"
/-- Compact text of elements. -/
def compactList : List Json → List String
  | [] => []
  | x :: xs => compact x :: compactList xs
/-- Compact text of members. -/
def compactMembers : List (String × Json) → List String
  | [] => []
  | (k, v) :: kvs => (quoteString false k ++ ":" ++ compact v) :: compactMembers kvs
end

mutual
/-- Indented text at a depth, without the final newline. -/
def indented (depth : Nat) : Json → String
  | .null => "null"
  | .bool b => if b then "true" else "false"
  | .num t => t
  | .str s => quoteString true s
  | .arr [] => "[]"
  | .arr xs => "[\n" ++ ",\n".intercalate (indentedList (depth + 1) xs) ++ "\n" ++ pad depth ++ "]"
  | .obj [] => "\x7b\x7d"
  | .obj kvs => "\x7b\n" ++ ",\n".intercalate (indentedMembers (depth + 1) kvs) ++ "\n" ++ pad depth ++ "\x7d"
/-- Indented elements. -/
def indentedList (depth : Nat) : List Json → List String
  | [] => []
  | x :: xs => (pad depth ++ indented depth x) :: indentedList depth xs
/-- Indented members. -/
def indentedMembers (depth : Nat) : List (String × Json) → List String
  | [] => []
  | (k, v) :: kvs => (pad depth ++ quoteString true k ++ ": " ++ indented depth v) :: indentedMembers depth kvs
/-- Two spaces per level. -/
def pad (depth : Nat) : String := String.ofList (List.replicate (2 * depth) ' ')
end

/-- The indented document with its final newline. -/
def pretty (j : Json) : String := indented 0 j ++ "\n"

end PassPlan.Json
