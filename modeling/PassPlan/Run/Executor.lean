import PassPlan.Run.Report
/-!
The executor: runs the passes of a plan in order over a model and stops at the first pass
that cannot be found or fails. Each attempt publishes events: a found pass is announced as
started, then as finished or failed; a missing pass only as failed. The executor has a clock
and numbers its runs.
-/
namespace PassPlan.Run

/-- The kinds of executor events. -/
inductive EventKind where
  | started
  | finished
  | failed
deriving DecidableEq, Repr

/-- The name of an event kind. -/
def EventKind.name : EventKind → String
  | .started => "pass.started"
  | .finished => "pass.finished"
  | .failed => "pass.failed"

/-- An executor event about a step; a finished or failed pass carries the lines it asked to
have logged. -/
structure Event where
  kind : EventKind
  step : Step
  notes : List Pass.Note := []
deriving Repr

/-- Eight lower-case hexadecimal digits of a number. -/
def hex8 (n : Nat) : String :=
  String.ofList ((List.range 8).reverse.map fun k =>
    let d := n / Nat.pow 16 k % 16
    if d < 10 then Char.ofNat (48 + d) else Char.ofNat (87 + d))

/-- The id of the run with a number. -/
def runId (n : Nat) : String := hex8 n ++ "-0000-4000-8000-000000000000"

/-- Two lower-case hexadecimal digits of a byte. -/
def hex2 (b : Nat) : String := (hex8 (b % 256)).drop 6 |>.toString

/-- A random (version 4) identifier made from sixteen bytes: the version nibble is set to 4
and the variant bits to 10. -/
def uuidOfBytes (bs : List Nat) : String :=
  let bs := bs.zipIdx.map fun (b, i) =>
    if i = 6 then b % 16 + 64 else if i = 8 then b % 64 + 128 else b % 256
  let hex (start n : Nat) := String.join ((bs.drop start).take n |>.map hex2)
  hex 0 4 ++ "-" ++ hex 4 2 ++ "-" ++ hex 6 2 ++ "-" ++ hex 8 2 ++ "-" ++ hex 10 6

/-- The identifier drawn from a byte stream whose byte `j` is `16 * n + j`, for the `n`-th
block of sixteen. -/
def streamId (n : Nat) : String := uuidOfBytes ((List.range 16).map fun j => (16 * n + j) % 256)

/-- An executor: the time it reads and the number of its next run. -/
structure Executor where
  clock : Instant
  nextRun : Nat := 1

/-- What one execution produced. -/
structure Execution where
  report : Report
  events : List Event
  model : Graph

/-- Finds a pass by name, or says why not. -/
abbrev Lookup := String → Except String Pass

/-- Runs a pass as the executor does: a pass that panics is taken to have done nothing, so its
outcome is no-op; its fault and the model it left stay. -/
def runPass (p : Pass) (g : Graph) : Pass.Result :=
  let r := p.run g
  match r.fault with
  | some (.panicked _) => { r with outcome := .noop }
  | _ => r

/-- Attempts the pass at `index` of a plan on a model: the step it records, the events it
publishes and the model it leaves. A pass the lookup does not find is not run. -/
def runStep (runId : String) (flow : Flow.Name) (lookup : Lookup) (index : Nat) (name : String)
    (g : Graph) : Step × List Event × Graph :=
  let step : Step := ⟨runId, flow, index, name, .noop, 0, none⟩
  match lookup name with
  | .error cause =>
    let step := { step with error := some (.notFound name cause) }
    (step, [⟨.failed, step, []⟩], g)
  | .ok p =>
    let r := runPass p g
    let done := { step with outcome := r.outcome, error := r.fault.map .fault }
    (done, [⟨.started, step, []⟩, ⟨if r.fault.isSome then .failed else .finished, done, r.notes⟩],
      r.model)

/-- Runs the steps from `index` on, accumulating steps and events, and stops after the first
step that failed. -/
def runSteps (runId : String) (flow : Flow.Name) (lookup : Lookup) :
    List String → Nat → Graph → List Step → List Event → List Step × List Event × Graph
  | [], _, g, steps, events => (steps, events, g)
  | name :: rest, i, g, steps, events =>
    let (step, published, g) := runStep runId flow lookup i name g
    if step.error.isSome then (steps ++ [step], events ++ published, g)
    else runSteps runId flow lookup rest (i + 1) g (steps ++ [step]) (events ++ published)

/-- Executes a plan over a model as the run with a given id. -/
def Executor.executeAs (ex : Executor) (id : String) (plan : Flow.Plan) (g : Graph) (lookup : Lookup) :
    Executor × Execution :=
  let (steps, events, g) := runSteps id plan.flow lookup plan.passes 0 g [] []
  let failure := steps.getLast?.bind fun s =>
    s.error.map fun e => ⟨plan.flow, s.pass, s.index, e⟩
  let report : Report :=
    { runId := id, flow := plan.flow, plan := plan.passes,
      state := if failure.isSome then .failed else .completed, steps,
      startedAt := ex.clock, finishedAt := ex.clock, failure }
  ({ ex with nextRun := ex.nextRun + 1 }, ⟨report, events, g⟩)

/-- Executes a plan over a model, the run taking the id of the executor's next number. -/
def Executor.execute (ex : Executor) (plan : Flow.Plan) (g : Graph) (lookup : Lookup) :
    Executor × Execution :=
  ex.executeAs (runId ex.nextRun) plan g lookup

end PassPlan.Run
