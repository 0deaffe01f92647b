import PassPlan.Text.Width
import PassPlan.Text.Blank
/-!
Word wrapping to a line limit. Words are runs of characters between white space; a word that
would pass the limit starts a new line, unless the word alone is as long as the limit, in
which case it overflows. White space between words is kept, but dropped at a break. A hyphen
ends a word and is a place to break; it counts no column. Line feeds in the text are kept.
Terminal escape sequences travel with the word they are in and take no columns. The pending
white space counts one column per byte of its UTF-8 form.
-/
namespace PassPlan.Text

/-- The state of wrapping: the text so far, the pending white space and word (each last
character first), the width of the word and of the current line. -/
structure Wrapper where
  limit : Nat
  out : List Char := []
  space : List Char := []
  word : List Char := []
  wordWidth : Nat := 0
  lineLen : Nat := 0
  escape : Bool := false

/-- The bytes of a list of characters in UTF-8. -/
def utf8Bytes (cs : List Char) : Nat := (cs.map Char.utf8Size).foldl (· + ·) 0

/-- Whether a character ends a terminal escape sequence. -/
def endsEscape (c : Char) : Bool :=
  (0x40 ≤ c.toNat && c.toNat ≤ 0x5A) || (0x61 ≤ c.toNat && c.toNat ≤ 0x7A)

namespace Wrapper

/-- Moves the pending white space onto the line. -/
def addSpace (w : Wrapper) : Wrapper :=
  { w with lineLen := w.lineLen + utf8Bytes w.space, out := w.space ++ w.out, space := [] }

/-- Moves the pending word, after the pending white space, onto the line. -/
def addWord (w : Wrapper) : Wrapper :=
  if w.word.isEmpty then w
  else
    let w := w.addSpace
    { w with lineLen := w.lineLen + w.wordWidth, out := w.word ++ w.out, word := [], wordWidth := 0 }

/-- Ends the line, dropping the pending white space. -/
def addNewLine (w : Wrapper) : Wrapper := { w with out := '\n' :: w.out, lineLen := 0, space := [] }

/-- Takes the next character. -/
def push (w : Wrapper) (c : Char) : Wrapper :=
  if c = '\x1B' then { w with word := c :: w.word, escape := true }
  else if w.escape then { w with word := c :: w.word, escape := !endsEscape c }
  else if c = '\n' then
    let w :=
      if !w.word.isEmpty then w
      else if w.lineLen + utf8Bytes w.space > w.limit then { w with lineLen := 0, space := [] }
      else { w with out := w.space ++ w.out, space := [] }
    w.addWord.addNewLine
  else if isBlank c then
    let w := w.addWord
    { w with space := c :: w.space }
  else if c = '-' then
    let w := w.addSpace.addWord
    { w with out := c :: w.out }
  else
    let w := { w with word := c :: w.word, wordWidth := w.wordWidth + charWidth c }
    if w.lineLen + utf8Bytes w.space + w.wordWidth > w.limit && w.wordWidth < w.limit then w.addNewLine
    else w

/-- The wrapped text, with the last word placed. -/
def finish (w : Wrapper) : String := String.ofList w.addWord.out.reverse

end Wrapper

/-- A text wrapped to a line limit; a limit of zero leaves it as it is. -/
def wordWrap (s : String) (limit : Nat) : String :=
  if limit = 0 then s else (s.toList.foldl Wrapper.push { limit }).finish

end PassPlan.Text
