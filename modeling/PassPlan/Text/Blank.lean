/-!
White space as Unicode's White_Space property draws it: the ASCII blanks, next line, no-break
space, and the spaces above Latin-1. Trimming removes such characters from both ends.
-/
namespace PassPlan.Text

/-- The white space characters of Unicode. -/
def isBlank (c : Char) : Bool :=
  match c.toNat with
  | 0x09 | 0x0A | 0x0B | 0x0C | 0x0D | 0x20 | 0x85 | 0xA0 => true
  | 0x1680 | 0x2028 | 0x2029 | 0x202F | 0x205F | 0x3000 => true
  | n => 0x2000 ≤ n && n ≤ 0x200A

/-- Drops white space from the front of a character list. -/
def dropBlanks (cs : List Char) : List Char := cs.dropWhile isBlank

/-- Removes white space from both ends. -/
def trim (s : String) : String :=
  String.ofList (dropBlanks (dropBlanks s.toList).reverse).reverse

/-- Whether a string holds white space only (or nothing). -/
def isBlankText (s : String) : Bool := s.toList.all isBlank

theorem trim_toList (s : String) :
    (trim s).toList = (dropBlanks (dropBlanks s.toList).reverse).reverse := by
  simp [trim]

end PassPlan.Text
