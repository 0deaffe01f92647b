import PassPlan.Diff.Compute
/-!
Line diffs: each list of lines is joined into one text, every line followed by a line feed, and
the text cut again into lines, each with its line feed, which are numbered by first appearance
and compared as sequences of numbers. The engine hands each run of its script back as text, the
lines it spans one after another; one line feed is trimmed from the end of that text and the
rest cut at every line feed, so an empty run gives a single empty line.
-/
namespace PassPlan.Diff

/-- One line of a line diff and what happens to it. -/
structure LineEdit where
  op : Op
  text : String
deriving DecidableEq, Repr

/-- A run of an edit script as text: what happens to it, and the lines it spans one after
another, each with its line feed. -/
structure Chunk where
  op : Op
  text : String
deriving DecidableEq, Repr

/-- The text a list of lines is compared as: each line followed by a line feed. -/
def joinLines (xs : List String) : String := String.join (xs.map (· ++ "\n"))

/-- The lines of a text, each up to and including its line feed, and the rest after the last
line feed as a last line when it is not empty. -/
def cutLines (text : String) : List String :=
  let parts := text.toList.splitOn '\n'
  (parts.dropLast.map fun p => String.ofList (p ++ ['\n'])) ++
    ((parts.getLast?.filter fun p => !p.isEmpty).map String.ofList).toList

/-- Numbers one more line: a line already in the table has the number of its first place there,
from 1, and a new line is added at the end. -/
def numberLine : List String × List Nat → String → List String × List Nat
  | (table, ids), l =>
    match table.idxOf? l with
    | some i => (table, ids ++ [i + 1])
    | none => (table ++ [l], ids ++ [table.length + 1])

/-- Numbers the lines by first appearance, from 1, in a table shared by both sides. -/
def numberLines (table : List String) (lines : List String) : List String × List Nat :=
  lines.foldl numberLine (table, [])

/-- The line a number stands for in the table. -/
def lineText (table : List String) (i : Nat) : String := table.getD (i - 1) ""

/-- Maps a script of line numbers back to text, run by run: each run keeps what happens to it,
and its text is the lines its numbers stand for, one after another. -/
def charsToLines (table : List String) (es : List Edit) : List Chunk :=
  es.map fun e => ⟨e.op, String.join (e.items.map (lineText table))⟩

/-- The lines of a run's text: one line feed trimmed from its end, then the text cut at every
line feed, so an empty text is one empty line. -/
def chunkLines (text : String) : List String :=
  let cs := text.toList
  let cs := if cs.getLast? = some '\n' then cs.dropLast else cs
  (cs.splitOn '\n').map String.ofList

/-- The lines of one run, each with what happens to it. -/
def runLines (c : Chunk) : List LineEdit := (chunkLines c.text).map fun l => ⟨c.op, l⟩

/-- The line diff of two lists of lines, given the engine that compares the two sequences of
line numbers and the mapping of its script back to text. -/
def lineDiffWith (engine : List Nat → List Nat → List Edit)
    (toLines : List String → List Edit → List Chunk) (a b : List String) : List LineEdit :=
  let (table, ia) := numberLines [] (cutLines (joinLines a))
  let (table, ib) := numberLines table (cutLines (joinLines b))
  (toLines table (engine ia ib)).flatMap runLines

/-- The line diff of two lists of lines. -/
def lineDiff (a b : List String) : List LineEdit := lineDiffWith diff charsToLines a b

/-- The numbers of inserted and deleted lines. -/
def stats (lines : List LineEdit) : Nat × Nat :=
  ((lines.filter (·.op = .insert)).length, (lines.filter (·.op = .delete)).length)

end PassPlan.Diff
