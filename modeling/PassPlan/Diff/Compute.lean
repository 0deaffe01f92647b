import PassPlan.Diff.Basic
/-!
Computing an edit script between two token sequences. The common prefix and suffix are kept;
of the middle, an empty side is a plain insertion or deletion, a shorter side found whole in
the longer one is kept with edits around it, a single token is replaced, and otherwise the
sequences split at a long common run found from a seed of a quarter of the longer one, or at
the middle of a shortest edit path found from both ends at once.
-/
namespace PassPlan.Diff

/-- The first position at or after `start` where `pat` occurs in `xs`. -/
def indexFrom (xs pat : List Nat) (start : Nat) : Option Nat :=
  let rec go : List Nat → Nat → Option Nat
    | rest, i =>
      if pat.isPrefixOf rest then some i
      else match rest with
        | [] => none
        | _ :: more => go more (i + 1)
  go (xs.drop start) start

/-- A split of both sequences around a common run: the parts of the first before and after
it, the parts of the second before and after it, and the run. -/
structure HalfMatch where
  firstBefore : List Nat
  firstAfter : List Nat
  secondBefore : List Nat
  secondAfter : List Nat
  common : List Nat

/-- The best common run through the seed of `long` at `i`: every place the seed occurs in
`short` is extended both ways, and the longest wins if it covers half of `long`. -/
def halfMatchAt (long short : List Nat) (i : Nat) : Option HalfMatch := Id.run do
  let seed := (long.drop i).take (long.length / 4)
  let mut best : Option (Nat × HalfMatch) := none
  let mut from_ := 0
  for _ in [0:short.length + 1] do
    match indexFrom short seed from_ with
    | none => break
    | some j =>
      let pre := commonPrefix (long.drop i) (short.drop j)
      let suf := commonSuffix (long.take i) (short.take j)
      let bestLen := (best.map (·.1)).getD 0
      if bestLen < suf + pre then
        best := some (suf + pre,
          ⟨long.take (i - suf), long.drop (i + pre), short.take (j - suf), short.drop (j + pre),
            (short.drop (j - suf)).take (suf + pre)⟩)
      from_ := j + 1
  match best with
  | some (n, hm) => if n * 2 < long.length then none else some hm
  | none => none

/-- A common run of at least half the longer sequence, seeded from its second or third
quarter, when there is one. -/
def halfMatch (a b : List Nat) : Option HalfMatch :=
  let (long, short) := if a.length > b.length then (a, b) else (b, a)
  if long.length < 4 || short.length * 2 < long.length then none
  else
    let hm1 := halfMatchAt long short ((long.length + 3) / 4)
    let hm2 := halfMatchAt long short ((long.length + 1) / 2)
    let hm := match hm1, hm2 with
      | none, none => none
      | some h, none => some h
      | none, some h => some h
      | some h1, some h2 => if h1.common.length > h2.common.length then some h1 else some h2
    hm.map fun h =>
      if a.length > b.length then h
      else ⟨h.secondBefore, h.secondAfter, h.firstBefore, h.firstAfter, h.common⟩

/-- The state of the search from both ends: the furthest reach on each diagonal from the
front and from the back, and the diagonals already run off the grid. -/
structure Bisect where
  front : Array Int
  back : Array Int
  k1start : Int := 0
  k1end : Int := 0
  k2start : Int := 0
  k2end : Int := 0

/-- The point where the forward and backward shortest edit paths meet, if they do before the
search gives up. -/
def bisectPoint (a b : Array Nat) : Option (Nat × Nat) := Id.run do
  let n : Int := a.size
  let m : Int := b.size
  let maxD := (a.size + b.size + 1) / 2
  let off : Int := maxD
  let len := 2 * maxD
  let init := (Array.replicate len (-1 : Int)).setIfInBounds (maxD + 1) 0
  let mut st : Bisect := ⟨init, init, 0, 0, 0, 0⟩
  let delta := n - m
  let front := delta % 2 ≠ 0
  let at_ (v : Array Int) (i : Int) : Int := if i < 0 then -1 else v.getD i.toNat (-1)
  let tokA (i : Int) : Nat := a.getD i.toNat 0
  let tokB (i : Int) : Nat := b.getD i.toNat 0
  for dn in [0:maxD] do
    let d : Int := dn
    let mut k1 := -d + st.k1start
    for _ in [0:dn + 2] do
      if k1 > d - st.k1end then break
      let ko := off + k1
      let mut x1 :=
        if k1 = -d || (k1 ≠ d && at_ st.front (ko - 1) < at_ st.front (ko + 1)) then at_ st.front (ko + 1)
        else at_ st.front (ko - 1) + 1
      let mut y1 := x1 - k1
      for _ in [0:a.size + 1] do
        if x1 < n && y1 < m && tokA x1 = tokB y1 then
          x1 := x1 + 1
          y1 := y1 + 1
        else break
      st := { st with front := st.front.setIfInBounds ko.toNat x1 }
      if x1 > n then st := { st with k1end := st.k1end + 2 }
      else if y1 > m then st := { st with k1start := st.k1start + 2 }
      else if front then
        let k2o := off + delta - k1
        if 0 ≤ k2o && k2o < len && at_ st.back k2o ≠ -1 then
          let x2 := n - at_ st.back k2o
          if x1 ≥ x2 then return some (x1.toNat, y1.toNat)
      k1 := k1 + 2
    let mut k2 := -d + st.k2start
    for _ in [0:dn + 2] do
      if k2 > d - st.k2end then break
      let ko := off + k2
      let mut x2 :=
        if k2 = -d || (k2 ≠ d && at_ st.back (ko - 1) < at_ st.back (ko + 1)) then at_ st.back (ko + 1)
        else at_ st.back (ko - 1) + 1
      let mut y2 := x2 - k2
      for _ in [0:a.size + 1] do
        if x2 < n && y2 < m && tokA (n - x2 - 1) = tokB (m - y2 - 1) then
          x2 := x2 + 1
          y2 := y2 + 1
        else break
      st := { st with back := st.back.setIfInBounds ko.toNat x2 }
      if x2 > n then st := { st with k2end := st.k2end + 2 }
      else if y2 > m then st := { st with k2start := st.k2start + 2 }
      else if !front then
        let k1o := off + delta - k2
        if 0 ≤ k1o && k1o < len && at_ st.front k1o ≠ -1 then
          let x1 := at_ st.front k1o
          let y1 := off + x1 - k1o
          if x1 ≥ n - x2 then return some (x1.toNat, y1.toNat)
      k2 := k2 + 2
  return none

/-- The middle of a diff, given the diff of smaller parts. -/
def compute (recurse : List Nat → List Nat → List Edit) (a b : List Nat) : List Edit :=
  if a.isEmpty then [⟨.insert, b⟩]
  else if b.isEmpty then [⟨.delete, a⟩]
  else
    let (long, short) := if a.length > b.length then (a, b) else (b, a)
    match indexFrom long short 0 with
    | some i =>
      let op := if a.length > b.length then Op.delete else .insert
      [⟨op, long.take i⟩, ⟨.equal, short⟩, ⟨op, long.drop (i + short.length)⟩]
    | none =>
      if short.length = 1 then [⟨.delete, a⟩, ⟨.insert, b⟩]
      else match halfMatch a b with
        | some h => recurse h.firstBefore h.secondBefore ++ [⟨.equal, h.common⟩] ++
            recurse h.firstAfter h.secondAfter
        | none =>
          match bisectPoint a.toArray b.toArray with
          | some (x, y) => recurse (a.take x) (b.take y) ++ recurse (a.drop x) (b.drop y)
          | none => [⟨.delete, a⟩, ⟨.insert, b⟩]

/-- The edit script between two sequences, with fuel for the depth of splitting. -/
def diffWith : Nat → List Nat → List Nat → List Edit
  | 0, a, b => normalize [⟨.delete, a⟩, ⟨.insert, b⟩]
  | fuel + 1, a, b =>
    if a = b then (if a.isEmpty then [] else [⟨.equal, a⟩])
    else
      let p := commonPrefix a b
      let pre := a.take p
      let a := a.drop p
      let b := b.drop p
      let s := commonSuffix a b
      let suf := a.drop (a.length - s)
      let a := a.take (a.length - s)
      let b := b.take (b.length - s)
      let mid := compute (diffWith fuel) a b
      normalize ((if pre.isEmpty then [] else [⟨.equal, pre⟩]) ++ mid ++
        (if suf.isEmpty then [] else [⟨.equal, suf⟩]))

/-- The edit script between two sequences. -/
def diff (a b : List Nat) : List Edit := diffWith (a.length + b.length + 1) a b

end PassPlan.Diff
