/-!
Edit scripts between two sequences of tokens: runs of tokens kept, inserted or deleted, in
order. Normalising a script merges neighbouring runs of one kind, moves the tokens that an
adjacent deletion and insertion share at their ends into the runs kept around them, and
slides a lone edit over a kept run it repeats, so that edits meet.
-/
namespace PassPlan.Diff

/-- What a run of an edit script does. -/
inductive Op where
  | equal
  | insert
  | delete
deriving DecidableEq, Repr, Inhabited

/-- A run of tokens with what happens to them. -/
structure Edit where
  op : Op
  items : List Nat
deriving DecidableEq, Repr, Inhabited

/-- The length of the longest common prefix. -/
def commonPrefix : List Nat → List Nat → Nat
  | a :: as, b :: bs => if a = b then commonPrefix as bs + 1 else 0
  | _, _ => 0

/-- The length of the longest common suffix. -/
def commonSuffix (a b : List Nat) : Nat := commonPrefix a.reverse b.reverse

/-- Replaces `count` runs from `start` with others. -/
def splice (xs : Array Edit) (start count : Nat) (ys : Array Edit) : Array Edit :=
  xs.extract 0 start ++ ys ++ xs.extract (start + count) xs.size

/-- Adds tokens to the end of the run at an index. -/
def appendAt (xs : Array Edit) (i : Nat) (t : List Nat) : Array Edit :=
  xs.modify i fun e => { e with items := e.items ++ t }

/-- The first pass of normalising: merges runs between kept runs and factors out the tokens
that the merged deletion and insertion share at their ends. A dummy kept run closes the
script, and is dropped again when it stays empty. -/
def mergeRuns (start : Array Edit) : Array Edit := Id.run do
  let mut diffs := start.push ⟨.equal, []⟩
  let mut pointer := 0
  let mut countDelete := 0
  let mut countInsert := 0
  let mut textDelete : List Nat := []
  let mut textInsert : List Nat := []
  for _ in [0:3 * diffs.size + 8] do
    if pointer ≥ diffs.size then break
    let d := diffs.getD pointer default
    match d.op with
    | .insert =>
      countInsert := countInsert + 1
      textInsert := textInsert ++ d.items
      pointer := pointer + 1
    | .delete =>
      countDelete := countDelete + 1
      textDelete := textDelete ++ d.items
      pointer := pointer + 1
    | .equal =>
      if countDelete + countInsert > 1 then
        if countDelete ≠ 0 && countInsert ≠ 0 then
          let c := commonPrefix textInsert textDelete
          if c ≠ 0 then
            let x := pointer - countDelete - countInsert
            if x > 0 && (diffs.getD (x - 1) default).op = .equal then
              diffs := appendAt diffs (x - 1) (textInsert.take c)
            else
              diffs := #[⟨.equal, textInsert.take c⟩] ++ diffs
              pointer := pointer + 1
            textInsert := textInsert.drop c
            textDelete := textDelete.drop c
          let c := commonSuffix textInsert textDelete
          if c ≠ 0 then
            let tail := textInsert.drop (textInsert.length - c)
            diffs := diffs.modify pointer fun e => { e with items := tail ++ e.items }
            textInsert := textInsert.take (textInsert.length - c)
            textDelete := textDelete.take (textDelete.length - c)
        let merged : Array Edit :=
          if countDelete = 0 then #[⟨.insert, textInsert⟩]
          else if countInsert = 0 then #[⟨.delete, textDelete⟩]
          else #[⟨.delete, textDelete⟩, ⟨.insert, textInsert⟩]
        let first := pointer - countDelete - countInsert
        diffs := splice diffs first (countDelete + countInsert) merged
        pointer := first + 1 + merged.size
      else if pointer ≠ 0 && (diffs.getD (pointer - 1) default).op = .equal then
        diffs := (appendAt diffs (pointer - 1) d.items).eraseIdxIfInBounds pointer
      else
        pointer := pointer + 1
      countInsert := 0
      countDelete := 0
      textDelete := []
      textInsert := []
  if (diffs.back?.map (·.items.isEmpty)).getD false then diffs := diffs.pop
  return diffs

/-- The second pass of normalising: a lone edit between two kept runs slides over the run
before it when it ends with that run, or over the run after it when it starts with it.
Reports whether anything moved. -/
def slideEdits (start : Array Edit) : Array Edit × Bool := Id.run do
  let mut diffs := start
  let mut changes := false
  let mut pointer := 1
  for _ in [0:start.size] do
    if pointer + 1 ≥ diffs.size then break
    let prev := diffs.getD (pointer - 1) default
    let cur := diffs.getD pointer default
    let next := diffs.getD (pointer + 1) default
    if prev.op = .equal && next.op = .equal then
      if prev.items.isSuffixOf cur.items then
        let body := cur.items.take (cur.items.length - prev.items.length)
        diffs := diffs.setIfInBounds pointer { cur with items := prev.items ++ body }
        diffs := diffs.setIfInBounds (pointer + 1) { next with items := prev.items ++ next.items }
        diffs := diffs.eraseIdxIfInBounds (pointer - 1)
        changes := true
      else if next.items.isPrefixOf cur.items then
        diffs := diffs.setIfInBounds (pointer - 1) { prev with items := prev.items ++ next.items }
        diffs := diffs.setIfInBounds pointer { cur with items := cur.items.drop next.items.length ++ next.items }
        diffs := diffs.eraseIdxIfInBounds (pointer + 1)
        changes := true
    pointer := pointer + 1
  return (diffs, changes)

/-- Normalises an edit script, sliding and merging again as long as edits move. -/
def cleanupMerge : Nat → Array Edit → Array Edit
  | 0, diffs => mergeRuns diffs
  | fuel + 1, diffs =>
    let (diffs, changes) := slideEdits (mergeRuns diffs)
    if changes then cleanupMerge fuel diffs else diffs

/-- Normalises an edit script. -/
def normalize (diffs : List Edit) : List Edit :=
  (cleanupMerge ((diffs.map (·.items.length)).foldl (· + ·) 0 + diffs.length + 1) diffs.toArray).toList

end PassPlan.Diff
