/-!
Tokens of YAML text and syntax errors. A mark is a position (character index, line and
column, all from zero). A syntax error names the stage that found it, a context with its mark
and the problem with its mark; its message shows the problem and, when either mark is past the
first line, a line number: the context's line when it has one, else the problem's, one-based
for the scanner and as the mark counts for the parser.
-/
namespace PassPlan.Yaml

/-- A position in the text. -/
structure Mark where
  index : Nat := 0
  line : Nat := 0
  column : Nat := 0
deriving Repr, Inhabited, DecidableEq

/-- How a scalar is written. -/
inductive ScalarStyle where
  | plain
  | singleQuoted
  | doubleQuoted
  | literal
  | folded
deriving DecidableEq, Repr, Inhabited

/-- The kinds of tokens. -/
inductive TokenKind where
  | streamStart
  | streamEnd
  | versionDirective (major minor : Nat)
  | tagDirective (handle pfx : String)
  | documentStart
  | documentEnd
  | blockSequenceStart
  | blockMappingStart
  | blockEnd
  | flowSequenceStart
  | flowSequenceEnd
  | flowMappingStart
  | flowMappingEnd
  | blockEntry
  | flowEntry
  | key
  | value
  | aliasRef (name : String)
  | anchor (name : String)
  | tag (handle suffix : String)
  | scalar (text : String) (style : ScalarStyle)
deriving Repr, Inhabited, DecidableEq

/-- A token with the marks where it starts and ends. -/
structure Token where
  kind : TokenKind
  start : Mark
  stop : Mark
deriving Repr, Inhabited

/-- Comments read between tokens. A comment is joined to the first token that starts at or
after its token mark: a head comment stands before that token, a line comment after it on the
same line, and a foot comment after the token before it. The scan mark is where the scan that
found it began, and the start and end marks bound its text. -/
structure Comment where
  scanMark : Mark := {}
  tokenMark : Mark := {}
  startMark : Mark := {}
  endMark : Mark := {}
  head : String := ""
  line : String := ""
  foot : String := ""
deriving Repr, Inhabited

/-- Which stage found a syntax error. -/
inductive Stage where
  | reader
  | scanner
  | parser
deriving DecidableEq, Repr, Inhabited

/-- A syntax error. -/
structure SyntaxError where
  stage : Stage
  context : String := ""
  contextMark : Mark := {}
  problem : String
  problemMark : Mark := {}
deriving Repr, Inhabited

/-- The message of a syntax error. -/
def SyntaxError.message (e : SyntaxError) : String :=
  let base := if e.contextMark.line ≠ 0 then e.contextMark.line else e.problemMark.line
  let line := if base = 0 then 0 else if e.stage = .scanner then base + 1 else base
  "yaml: " ++ (if line ≠ 0 then "line " ++ toString line ++ ": " else "") ++ e.problem

/-- The comments a node carries: above it, after it on its line, below it, and below the
last entry of the collection it ends. -/
structure Notes where
  head : String := ""
  line : String := ""
  foot : String := ""
  tail : String := ""
deriving Inhabited, Repr

end PassPlan.Yaml
