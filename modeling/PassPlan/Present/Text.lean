import PassPlan.Present.Record
import PassPlan.Text.Wrap
import PassPlan.Text.Bytes
import PassPlan.Diff.Lines
/-!
Plain text views of presentation records, for a terminal of a given width. A view is a list of
writes, each printed with a line feed; a write may hold several lines. Tables pad every column
but the last to its widest cell and cut the last to the room left; plans number their passes;
reports list the steps with marks, the passes skipped, the failure wrapped to the width, and a
summary; differences show each section as a line diff.
-/
namespace PassPlan.Present

/-- A span of styled text as it shows without colour: a tab becomes four spaces, a carriage
return before a line feed goes, and the lines of a span of several lines are padded on the
right, in terminal cells, to the widest of them. -/
def styled (s : String) : String :=
  let s := (s.replace "\t" "    ").replace "\r\n" "\n"
  let lines := s.splitOn "\n"
  match lines with
  | [_] => s
  | _ =>
    let widest := (lines.map Text.cellWidth).foldl max 0
    "\n".intercalate (lines.map fun l => l ++ String.ofList (List.replicate (widest - Text.cellWidth l) ' '))

/-- A number right-aligned in a field of a given width. -/
def padNumber (w : Nat) (n : Int) : String :=
  let t := toString n
  String.ofList (List.replicate (w - t.length) ' ') ++ t

/-- The number of decimal digits of a count. -/
def digitCount (n : Nat) : Nat := (toString n).length

/-- Milliseconds with two decimals. -/
def msText (f : Float) : String := Decimal.fixedText f 2 ++ "ms"

/-- The first eight bytes of a run id. -/
def shortId (id : String) : String := if id.utf8ByteSize > 8 then Text.takeBytes id 8 else id

/-- A dash for an empty cell. -/
def orDash (s : String) : String := if s = "" then "-" else s

/-- The larger of two widths column by column, as many columns as the first list has. -/
def maxInto : List Nat → List Nat → List Nat
  | w :: ws, c :: cs => max w c :: maxInto ws cs
  | ws, [] => ws
  | [], _ :: _ => []

/-- A table: a header line and one line per row. Every column but the last is as wide as its
widest cell and is followed by two spaces; the last is cut to the columns left, at least one.
Trailing spaces are dropped. -/
def table (width : Nat) (header : List String) (rows : List (List String)) : List String :=
  let widths := rows.foldl (fun ws row => maxInto ws ((row.take (row.length - 1)).map Text.width))
    (header.map Text.width)
  let format (cells : List String) : String :=
    let rec go : List String → List Nat → Nat → String
      | [], _, _ => ""
      | [c], _, used => Text.truncate c (max ((width : Int) - used).toNat 1) "…"
      | c :: rest, ws, used =>
        let w := ws.headD 0
        Text.fillRight c w ++ "  " ++ go rest ws.tail (used + w + 2)
    String.ofList ((go cells widths 0).toList.reverse.dropWhile (· = ' ')).reverse
  styled (format header) :: rows.map format

/-- The backends table; the default backend is marked with a star. -/
def backendsText (width : Nat) (bs : List BackendView) : List String :=
  table width ["", "BACKEND", "PARENT", "DEFAULT FLOW", "DESCRIPTION"]
    (bs.map fun b => [if b.isDefault then "*" else " ", b.display, orDash b.parent,
      orDash b.defaultFlow, b.description])

/-- The flows table; an aggregate flow shows a dash for its passes. -/
def flowsText (width : Nat) (fs : List FlowView) : List String :=
  if fs.isEmpty then [styled "no flows"]
  else table width ["FLOW", "PASSES", "REQUIRES"]
    (fs.map fun f => [f.name, if f.aggregate then "-" else toString (f.passes.getD []).length,
      ", ".intercalate (f.requires.getD [])])

/-- A plan: its flow and pass count, then the passes numbered in order, grouped under the
flows that contribute them when there are contributions. -/
def planText (width : Nat) (p : PlanView) : List String :=
  let passes := p.passes.getD []
  let digits := digitCount passes.length
  let cut (s : String) (indent : Nat) : String :=
    Text.truncate s (max ((width : Int) - indent).toNat 1) "…"
  let header := styled p.flow ++ " " ++ styled ("(" ++ toString passes.length ++ " passes)")
  if p.contributions.isEmpty then
    header :: passes.zipIdx.map fun (s, i) =>
      "  " ++ padNumber digits (i + 1) ++ "  " ++ cut s (digits + 4)
  else
    let (_, lines) := p.contributions.foldl (fun (n, acc) c =>
      let (n, ls) := (c.passes.getD []).foldl (fun (n, ls) s =>
        (n + 1, ls ++ ["    " ++ padNumber digits (n + 1) ++ "  " ++ cut s (digits + 6)])) (n, [])
      (n, acc ++ ("  " ++ styled c.flow) :: ls)) (0, [])
    header :: lines

/-- A run report: the run, its flow and state; each step with a mark, its number, its pass
padded to the name column, its outcome and time; the skipped passes; the failure wrapped to
the width; and a summary. -/
def reportText (width : Nat) (r : ReportView) : List String :=
  let plan := r.plan.getD []
  let steps := r.steps.getD []
  let digits := digitCount plan.length
  let nameWidth := min ((plan.map Text.width).foldl max 0) (max (width / 2) 10)
  let summary := styled "run" ++ " " ++ shortId r.runId ++ "  " ++ styled r.flow ++ "  " ++ styled r.state
  let step (s : StepView) : String :=
    let (mark, outcome) := if s.error ≠ "" then ("✗", "failed") else ("✓", s.outcome)
    let name := Text.fillRight (Text.truncate s.pass nameWidth "…") nameWidth
    "  " ++ styled mark ++ " " ++ padNumber digits (s.index + 1) ++ "  " ++ name ++ "  " ++
      styled outcome ++ " " ++ styled (msText s.durationMs)
  let skipped := r.skipped.zipIdx.map fun (p, i) =>
    "  " ++ styled "·" ++ " " ++ padNumber digits (steps.length + i + 1) ++ "  " ++
      styled (Text.truncate p nameWidth "…")
  let failure := match r.failure with
    | some f =>
      let msg := "pass " ++ toString (f.index + 1) ++ " (" ++ f.pass ++ "): " ++ f.error
      [styled (Text.wordWrap msg width)]
    | none => []
  let last := styled (toString r.transformed ++ " transformed, " ++ toString r.skipped.length ++
    " skipped, " ++ msText r.durationMs)
  summary :: steps.map step ++ skipped ++ failure ++ [last]

/-- The recorded runs table, start times in UTC. -/
def reportsText (width : Nat) (rs : List ReportView) : List String :=
  if rs.isEmpty then [styled "no recorded runs"]
  else table width ["RUN", "STARTED", "STATE", "PASSES", "FLOW"]
    (rs.map fun r => [shortId r.runId, r.startedAt.utc.dateTimeText, r.state,
      toString (r.steps.getD []).length ++ "/" ++ toString (r.plan.getD []).length, r.flow])

/-- The missing passes table and their count. -/
def missingText (width : Nat) (ms : List MissingView) : List String :=
  if ms.isEmpty then [styled "every flow resolves to registered passes"]
  else table width ["FLOW", "MISSING PASS"] (ms.map fun m => [m.flow, m.pass]) ++
    [styled (toString ms.length ++ " missing")]

/-- The mark of a line diff operation. -/
def diffLineText (l : Diff.LineEdit) : String :=
  match l.op with
  | .insert => styled ("+" ++ l.text)
  | .delete => styled ("-" ++ l.text)
  | .equal => " " ++ l.text

/-- A difference: both names, then requirements and plans as line diffs with their counts. -/
def diffText (d : DiffView) : List String :=
  let part (name : String) (a b : List String) : List String :=
    let lines := Diff.lineDiff a b
    let (added, removed) := Diff.stats lines
    styled ("@@ " ++ name ++ " +" ++ toString added ++ " -" ++ toString removed ++ " @@") ::
      lines.map diffLineText
  (styled "---" ++ " " ++ d.a ++ "\n" ++ styled "+++" ++ " " ++ d.b) ::
    part "requires" (d.aRequires.getD []) (d.bRequires.getD []) ++
      part "plan" (d.aPlan.getD []) (d.bPlan.getD [])

/-- The text of a list of writes. -/
def printed (writes : List String) : String := String.join (writes.map (· ++ "\n"))

end PassPlan.Present
