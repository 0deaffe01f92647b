import PassPlan.History.Record
import PassPlan.Sql.Script
/-!
The run history kept in a database: saving a report replaces any earlier run of its id, finding
one reads it back with its steps, listing gives the newest first, and pruning keeps a number of
the newest runs. Each change is one transaction, so a failing statement leaves the database as
it was; each failure says which step failed.
-/
namespace PassPlan.History

/-- Why a history operation failed. -/
inductive HistoryError where
  /-- No run has the id. -/
  | notFound (runId : String)
  /-- A statement or a stored row failed, by message. -/
  | message (text : String)
deriving DecidableEq, Repr

/-- The message of a history failure. -/
def HistoryError.text : HistoryError → String
  | .notFound id => "run " ++ id ++ " not found"
  | .message m => m

/-- Which runs a listing shows: a backend, or one flow of it, a state and a count; zero values
match everything. -/
structure Filter where
  flow : Flow.Name := ⟨"", ""⟩
  state : Option Run.State := none
  limit : Int := 0

/-- The columns read for a run. -/
def runColumnsText : String :=
  "id, run_id, backend, flow, state, plan, failed_pass, failed_index, failure,\n\ttransformed, started_at, finished_at"

/-- A statement whose failure is reported under a heading. -/
def step (heading : String) (x : Except Sql.SqlError Sql.Outcome) : Except HistoryError Sql.Outcome :=
  x.mapError fun e => .message (heading ++ ": " ++ e.text)

/-- Stores a report with its steps in place of any run of the same id. -/
def save (db : Sql.Database) (r : Run.Report) : Except HistoryError Sql.Database := do
  if r.runId = "" then throw (.message "save report: empty run id")
  let m := RunRow.ofReport r
  let o ← step "failed to clear run steps" (db.exec "DELETE FROM run_steps WHERE run_id = ?" [.text m.runId])
  let o ← step "failed to clear run" (o.db.exec "DELETE FROM runs WHERE run_id = ?" [.text m.runId])
  let o ← step "failed to insert run" (o.db.exec
    "INSERT INTO runs (\n\t\t\trun_id, backend, flow, state, plan, failed_pass, failed_index, failure,\n\t\t\ttransformed, started_at, finished_at\n\t\t) VALUES (?, ?, ?, ?, ?, ?, ?, ?, ?, ?, ?)"
    m.cells)
  r.steps.foldlM (fun db s => do
    let o ← step ("failed to insert step " ++ toString s.index) (db.exec
      "INSERT INTO run_steps (run_id, idx, pass, outcome, duration_us, error) VALUES (?, ?, ?, ?, ?, ?)"
      (StepRow.ofStep m.runId s).cells)
    pure o.db) o.db

/-- The step rows of a run in index order. -/
def loadSteps (db : Sql.Database) (runId : String) : Except HistoryError (List StepRow) := do
  let o ← step "failed to load steps" (db.exec
    "SELECT run_id, idx, pass, outcome, duration_us, error FROM run_steps WHERE run_id = ? ORDER BY idx"
    [.text runId])
  o.rows.mapM fun row =>
    (StepRow.scan o.columns row).mapError fun e => .message ("failed to scan step: " ++ e)

/-- The report of a run id. -/
def find (db : Sql.Database) (runId : String) : Except HistoryError Run.Report := do
  let o ← step "failed to find run" (db.exec ("SELECT " ++ runColumnsText ++ " FROM runs WHERE run_id = ?") [.text runId])
  match o.rows with
  | [] => throw (.notFound runId)
  | row :: _ =>
    let m ← (RunRow.scan o.columns row).mapError fun e => .message ("failed to find run: " ++ e)
    let steps ← loadSteps db runId
    (m.toReport steps).mapError .message

/-- The conditions of a filter and their parameters. -/
def Filter.conditions (f : Filter) : List (String × Sql.Value) :=
  let byFlow : List (String × Sql.Value) :=
    if f.flow.backend = "" && f.flow.flow = "" then []
    else ("backend = ?", .text f.flow.backend) ::
      (if f.flow.flow = "" then [] else [("flow = ?", .text f.flow.flow)])
  byFlow ++ (f.state.map fun s => [("state = ?", Sql.Value.text s.name)]).getD []

/-- The query of a filter and its parameters: newest first, at most the limit when positive. -/
def Filter.query (f : Filter) : String × List Sql.Value :=
  let cs := f.conditions
  let whereText := if cs.isEmpty then "" else " WHERE " ++ " AND ".intercalate (cs.map (·.1))
  let limited := f.limit > 0
  ("SELECT " ++ runColumnsText ++ " FROM runs" ++ whereText ++ " ORDER BY started_at DESC, id DESC" ++
      (if limited then " LIMIT ?" else ""),
    cs.map (·.2) ++ (if limited then [.int f.limit] else []))

/-- The reports a filter matches, newest first. -/
def list (db : Sql.Database) (f : Filter) : Except HistoryError (List Run.Report) := do
  let (q, ps) := f.query
  let o ← step "failed to list runs" (db.exec q ps)
  let models ← o.rows.mapM fun row =>
    (RunRow.scan o.columns row).mapError fun e => .message ("failed to scan run: " ++ e)
  models.mapM fun m => do
    let steps ← loadSteps db m.runId
    (m.toReport steps).mapError .message

/-- Keeps the newest runs and removes the rest with their steps: the database and the number of
runs removed. -/
def prune (db : Sql.Database) (keep : Int) : Except HistoryError (Sql.Database × Nat) := do
  if keep < 0 then throw (.message ("prune: keep must be >= 0, got " ++ toString keep))
  let o ← step "failed to prune runs" (db.exec
    "DELETE FROM runs WHERE run_id NOT IN (\n\t\t\tSELECT run_id FROM runs ORDER BY started_at DESC, id DESC LIMIT ?\n\t\t)"
    [.int keep])
  let o2 ← step "failed to prune run steps" (o.db.exec
    "DELETE FROM run_steps WHERE run_id NOT IN (SELECT run_id FROM runs)")
  pure (o2.db, o.changes)

end PassPlan.History
