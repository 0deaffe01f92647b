import PassPlan.History.Cell
import PassPlan.Run.Report
import PassPlan.Json.Reader
import PassPlan.Json.Writer
/-!
Reports as rows of the history tables. A run row holds the run's name, state, plan as a JSON
array, failure and times in Unix milliseconds; a step row holds the pass, its outcome name and
its duration in microseconds. Reading a report back gives its times in UTC to the millisecond,
step outcomes other than `transformed` as no-ops, and errors as their messages.
-/
namespace PassPlan.History



/-- A row of the runs table. -/
structure RunRow where
  id : Int := 0
  runId : String
  backend : String
  flow : String
  state : String
  plan : String
  failedPass : Option String
  failedIndex : Option Int
  failure : Option String
  transformed : Int
  startedAt : Int
  finishedAt : Int
deriving Repr

/-- A row of the steps table. -/
structure StepRow where
  runId : String
  index : Int
  pass : String
  outcome : String
  durationUs : Int
  error : Option String
deriving Repr

/-- Milliseconds since the epoch, rounded down. -/
def unixMillis (t : Instant) : Int := t.seconds * 1000 + (t.nanos / 1000000 : Nat)

/-- The instant in UTC of milliseconds since the epoch. -/
def ofUnixMillis (ms : Int) : Instant :=
  let s := ms.fdiv 1000
  { seconds := s, nanos := ((ms - s * 1000) * 1000000).toNat }

/-- A cell of a nullable text column. -/
def optText : Option String → Sql.Value
  | some s => .text s
  | none => .null

/-- A cell of a nullable integer column. -/
def optInt : Option Int → Sql.Value
  | some n => .int n
  | none => .null

/-- The run row of a report. -/
def RunRow.ofReport (r : Run.Report) : RunRow :=
  { runId := r.runId, backend := r.flow.backend, flow := r.flow.flow, state := r.state.name,
    plan := "[" ++ ",".intercalate (r.plan.map (Json.quoteString true)) ++ "]",
    failedPass := r.failure.map (·.pass), failedIndex := r.failure.map (fun f => (f.index : Int)),
    failure := r.failure.map (·.error.text), transformed := r.transformed,
    startedAt := unixMillis r.startedAt, finishedAt := unixMillis r.finishedAt }

/-- The cells of a run row in insertion order, without the row id. -/
def RunRow.cells (m : RunRow) : List Sql.Value :=
  [.text m.runId, .text m.backend, .text m.flow, .text m.state, .text m.plan, optText m.failedPass,
    optInt m.failedIndex, optText m.failure, .int m.transformed, .int m.startedAt, .int m.finishedAt]

/-- The step row of a step. -/
def StepRow.ofStep (runId : String) (s : Run.Step) : StepRow :=
  { runId, index := s.index, pass := s.pass, outcome := s.outcome.name,
    durationUs := s.duration.tdiv 1000, error := s.error.map (·.text) }

/-- The cells of a step row in insertion order. -/
def StepRow.cells (s : StepRow) : List Sql.Value :=
  [.text s.runId, .int s.index, .text s.pass, .text s.outcome, .int s.durationUs, optText s.error]

/-- Reads a run row from its cells and the names of their columns. -/
def RunRow.scan (names : List String) (row : List Sql.Value) : Except String RunRow := do
  let cell {α : Type} := scanCell (α := α) row names
  let id ← cell 0 (readInt .int64)
  let runId ← cell 1 readText
  let backend ← cell 2 readText
  let flow ← cell 3 readText
  let state ← cell 4 readText
  let plan ← cell 5 readText
  let failedPass ← cell 6 readOptText
  let failedIndex ← cell 7 (readOptInt .int)
  let failure ← cell 8 readOptText
  let transformed ← cell 9 (readInt .int)
  let startedAt ← cell 10 (readInt .int64)
  let finishedAt ← cell 11 (readInt .int64)
  pure { id, runId, backend, flow, state, plan, failedPass, failedIndex, failure, transformed,
         startedAt, finishedAt }

/-- Reads a step row from its cells and the names of their columns. -/
def StepRow.scan (names : List String) (row : List Sql.Value) : Except String StepRow := do
  let cell {α : Type} := scanCell (α := α) row names
  let runId ← cell 0 readText
  let index ← cell 1 (readInt .int)
  let pass ← cell 2 readText
  let outcome ← cell 3 readText
  let durationUs ← cell 4 (readInt .int64)
  let error ← cell 5 readOptText
  pure { runId, index, pass, outcome, durationUs, error }

/-- The step a step row stands for. -/
def StepRow.toStep (name : Flow.Name) (s : StepRow) : Run.Step :=
  { runId := s.runId, flow := name, index := s.index.toNat, pass := s.pass,
    outcome := if s.outcome = "transformed" then .transformed else .noop,
    duration := s.durationUs * 1000, error := s.error.map fun m => .fault (.message m) }

/-- Reads a stored plan: a JSON array of texts, or null for none. -/
def decodePlan (text : String) : Except String (List String) := do
  match ← Json.parse text with
  | .null => pure []
  | .arr xs =>
    xs.mapM fun
      | .str s => pure s
      | .null => pure ""
      | .num _ => throw "json: cannot unmarshal number into Go value of type string"
      | .bool _ => throw "json: cannot unmarshal bool into Go value of type string"
      | .arr _ => throw "json: cannot unmarshal array into Go value of type string"
      | .obj _ => throw "json: cannot unmarshal object into Go value of type string"
  | .str _ => throw "json: cannot unmarshal string into Go value of type []string"
  | .num _ => throw "json: cannot unmarshal number into Go value of type []string"
  | .bool _ => throw "json: cannot unmarshal bool into Go value of type []string"
  | .obj _ => throw "json: cannot unmarshal object into Go value of type []string"

/-- The report a run row and its step rows stand for. -/
def RunRow.toReport (m : RunRow) (steps : List StepRow) : Except String Run.Report := do
  let state ← Run.State.parse m.state
  let plan ← (decodePlan m.plan).mapError fun e => "decode plan of run " ++ m.runId ++ ": " ++ e
  let name : Flow.Name := ⟨m.backend, m.flow⟩
  let failure : Option Run.Failure := m.failedPass.map fun p =>
    { flow := name, pass := p, index := (m.failedIndex.getD 0).toNat,
      error := .fault (.message (m.failure.getD "")) }
  pure { runId := m.runId, flow := name, plan, state, steps := steps.map (·.toStep name),
         startedAt := ofUnixMillis m.startedAt, finishedAt := ofUnixMillis m.finishedAt, failure }

end PassPlan.History
