import PassPlan.Text.GraphemeTables
/-!
User-perceived characters: a text splits into clusters, each a base character with the marks
that extend it. A line feed after a carriage return, marks, spacing marks and joiners stay
with what precedes them, prepended marks with what follows, Hangul jamo combine into
syllables, two regional indicators make one flag, and a joiner links two pictographs. Controls
are always clusters of their own.
-/
namespace PassPlan.Text

/-- What a character does at a cluster boundary. -/
inductive BreakClass where
  | cr
  | lf
  | control
  | extend
  | joiner
  | spacing
  | prepend
  | regional
  | leading
  | vowel
  | trailing
  | syllable
  | closedSyllable
  | pictograph
  | other
deriving DecidableEq, Repr

/-- The class of a Hangul syllable block: with a trailing consonant or without. -/
def hangulClass (n : Nat) : BreakClass :=
  if (n - 0xAC00) % 28 = 0 then .syllable else .closedSyllable

/-- The boundary class of a character. -/
def breakClass (c : Char) : BreakClass :=
  let n := c.toNat
  if n = 13 then .cr
  else if n = 10 then .lf
  else if n < 0x20 || (0x7F ≤ n && n < 0xA0) then .control
  else if n < 0x300 then
    if n = 0xAD then .control else if n = 0xA9 || n = 0xAE then .pictograph else .other
  else if n = 0x200D then .joiner
  else if 0x1F1E6 ≤ n && n ≤ 0x1F1FF then .regional
  else if (0x1100 ≤ n && n ≤ 0x115F) || (0xA960 ≤ n && n ≤ 0xA97C) then .leading
  else if (0x1160 ≤ n && n ≤ 0x11A7) || (0xD7B0 ≤ n && n ≤ 0xD7C6) then .vowel
  else if (0x11A8 ≤ n && n ≤ 0x11FF) || (0xD7CB ≤ n && n ≤ 0xD7FB) then .trailing
  else if 0xAC00 ≤ n && n ≤ 0xD7A3 then hangulClass n
  else if inRanges extendRanges n then .extend
  else if inRanges spacingRanges n then .spacing
  else if inRanges prependRanges n then .prepend
  else if inRanges controlRanges n then .control
  else if inRanges pictographRanges n then .pictograph
  else .other

/-- The state of splitting a text into clusters. -/
structure Segmenter where
  /-- Finished clusters, last first. -/
  done : List (List Char) := []
  /-- The characters of the open cluster, last first. -/
  current : List Char := []
  /-- The class of the last character. -/
  last : Option BreakClass := none
  /-- Regional indicators in a row up to the last character. -/
  regionalRun : Nat := 0
  /-- 1 after a pictograph and its marks, 2 once a joiner follows them, else 0. -/
  linking : Nat := 0

namespace Segmenter

/-- Whether a character of a class stays in the open cluster. -/
def joins (s : Segmenter) (k : BreakClass) : Bool :=
  match s.last with
  | none => false
  | some p =>
    if p = .cr && k = .lf then true
    else if p = .cr || p = .lf || p = .control then false
    else if k = .cr || k = .lf || k = .control then false
    else if p = .leading && (k = .leading || k = .vowel || k = .syllable || k = .closedSyllable) then true
    else if (p = .syllable || p = .vowel) && (k = .vowel || k = .trailing) then true
    else if (p = .closedSyllable || p = .trailing) && k = .trailing then true
    else if k = .extend || k = .joiner || k = .spacing then true
    else if p = .prepend then true
    else if p = .joiner && s.linking = 2 && k = .pictograph then true
    else p = .regional && k = .regional && s.regionalRun % 2 = 1

/-- Takes the next character. -/
def push (s : Segmenter) (c : Char) : Segmenter :=
  let k := breakClass c
  let s' : Segmenter :=
    if s.joins k then { s with current := c :: s.current }
    else if s.current.isEmpty then { s with current := [c] }
    else { s with done := s.current.reverse :: s.done, current := [c] }
  { s' with
    last := some k
    regionalRun := if k = .regional then s.regionalRun + 1 else 0
    linking :=
      if k = .pictograph then 1
      else if k = .extend && s.linking = 1 then 1
      else if k = .joiner && s.linking = 1 then 2
      else 0 }

/-- The clusters taken so far, in order. -/
def clusters (s : Segmenter) : List (List Char) :=
  (if s.current.isEmpty then s.done else s.current.reverse :: s.done).reverse

end Segmenter

/-- The first cluster of a list of characters, and the characters after it. -/
def firstCluster (cs : List Char) : List Char × List Char := go cs {}
where
  go : List Char → Segmenter → List Char × List Char
    | [], s => (s.current.reverse, [])
    | c :: rest, s =>
      let s' := s.push c
      if s'.done.isEmpty then go rest s' else (s.current.reverse, c :: rest)

/-- The clusters of a list of characters, in order. -/
def clusters (cs : List Char) : List (List Char) := (cs.foldl Segmenter.push {}).clusters

end PassPlan.Text
