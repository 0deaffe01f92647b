import PassPlan.Text.EastAsian
import PassPlan.Text.Grapheme
/-!
Display width of text in terminal columns, measured two ways.

Column width: a character takes two columns when it is wide, none when it is a control, an
invisible character or a combining character, and one otherwise; a cluster takes the columns of
its first character that takes any. Cutting a text to a width keeps whole clusters and ends
with a tail such as an ellipsis; filling pads with spaces on the right.

Cell width, as a terminal lays out styled lines: escape sequences take no cells, each plain
ASCII character takes one and other controls none, and from any other character on the text
is read a cluster at a time, the cluster taking the cells of its first character: none for a
control, format character or mark, two when it is wide, is a flag, or is followed by the emoji
presentation selector, else one.
-/
namespace PassPlan.Text

/-- The columns one character takes. -/
def charWidth (c : Char) : Nat :=
  let n := c.toNat
  if n < 0x20 then 0
  else if (0x7F ≤ n && n ≤ 0x9F) || n = 0xAD then 0
  else if n < 0x300 then 1
  else if inRanges invisibleRanges n || inRanges combiningRanges n then 0
  else if inRanges wideRanges n then 2
  else 1

/-- The columns a cluster takes: those of its first character that takes any. -/
def clusterWidth (cs : List Char) : Nat := ((cs.map charWidth).find? (· > 0)).getD 0

/-- The columns a text takes. -/
def width (s : String) : Nat := ((clusters s.toList).map clusterWidth).foldl (· + ·) 0

/-- The leading clusters that fit in `room` columns, given `used` columns already taken. -/
def fitClusters (room : Int) : List (List Char) → Nat → List Char
  | [], _ => []
  | c :: rest, used =>
    let w := clusterWidth c
    if ((used + w : Nat) : Int) > room then [] else c ++ fitClusters room rest (used + w)

/-- A text cut to at most `w` columns: unchanged when it fits, otherwise the leading clusters
that leave room for the tail, then the tail. -/
def truncate (s : String) (w : Nat) (tail : String) : String :=
  if width s ≤ w then s
  else String.ofList (fitClusters ((w : Int) - width tail) (clusters s.toList) 0) ++ tail

/-- A text padded with spaces on the right to `w` columns. -/
def fillRight (s : String) (w : Nat) : String := s ++ String.ofList (List.replicate (w - width s) ' ')

/-- Skips a string of a terminal escape sequence: up to a bell, or up to and with an escape
and the backslash after it. -/
def skipEscapeString : List Char → List Char
  | [] => []
  | '\x07' :: rest => rest
  | '\x1b' :: '\\' :: rest => rest
  | '\x1b' :: rest => rest
  | _ :: rest => skipEscapeString rest

/-- Skips a terminal escape sequence, given what follows its escape character: a control
sequence up to its final character, a string sequence up to its end, or an escape with its
intermediate characters and final character. -/
def skipEscape : List Char → List Char
  | [] => []
  | c :: rest =>
    if c = '[' then (rest.dropWhile fun d => d.toNat < 0x40 || d.toNat > 0x7E).drop 1
    else if c = ']' || c = 'P' || c = 'X' || c = '^' || c = '_' then skipEscapeString rest
    else if 0x20 ≤ c.toNat && c.toNat ≤ 0x2F then
      (rest.dropWhile fun d => 0x20 ≤ d.toNat && d.toNat ≤ 0x2F).drop 1
    else rest

/-- Whether a character is a regional indicator, half of a flag. -/
def isRegional (c : Char) : Bool := 0x1F1E6 ≤ c.toNat && c.toNat ≤ 0x1F1FF

/-- The cells a cluster takes on a terminal, from its first character. -/
def cellClusterWidth : List Char → Nat
  | [] => 0
  | c :: rest =>
    let n := c.toNat
    if isRegional c then (if rest.any isRegional then 2 else 1)
    else if inRanges wideRanges n then 2
    else if rest.head? = some '\uFE0F' then 2
    else if inRanges zeroCellRanges n then 0
    else 1

/-- The cells a text takes on a terminal, with fuel for one step a character. -/
def cellWidthOf : Nat → List Char → Nat → Nat
  | 0, _, acc => acc
  | _, [], acc => acc
  | fuel + 1, c :: rest, acc =>
    if c = '\x1b' then cellWidthOf fuel (skipEscape rest) acc
    else if c.toNat < 0x20 || c.toNat = 0x7F then cellWidthOf fuel rest acc
    else if c.toNat < 0x7F then cellWidthOf fuel rest (acc + 1)
    else
      let (cluster, after) := firstCluster (c :: rest)
      cellWidthOf fuel after (acc + cellClusterWidth cluster)

/-- The cells a text takes on a terminal. -/
def cellWidth (s : String) : Nat := cellWidthOf s.length s.toList 0

end PassPlan.Text
