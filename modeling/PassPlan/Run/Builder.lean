import PassPlan.Run.Report
/-!
Reports assembled by hand from the passes a run attempted. Steps are numbered in order; the
first step with an error ends the run as failed and later steps are dropped. Without a plan the
plan is the passes of the steps. The run finishes after the sum of the step durations, or after
a given time when that is positive. Two fixed reports, one completed and one failed, stand for
typical runs.
-/
namespace PassPlan.Run

/-- One attempted pass of a hand-built run. -/
structure StepSpec where
  pass : String
  outcome : Pass.Outcome := .noop
  /-- Nanoseconds the pass took. -/
  duration : Int := 0
  error : Option String := none

/-- A hand-built run: its id, flow, start, optional plan, steps and optional wall time. -/
structure Builder where
  runId : String
  flow : Flow.Name
  started : Instant
  plan : Option (List String) := none
  steps : List StepSpec := []
  /-- Nanoseconds from start to finish, when positive. -/
  finishedAfter : Int := 0

/-- The steps up to and including the first with an error. -/
def attempted : List StepSpec → List StepSpec
  | [] => []
  | s :: rest => if s.error.isSome then [s] else s :: attempted rest

/-- The report of a hand-built run. -/
def Builder.build (b : Builder) : Report :=
  let done := attempted b.steps
  let steps : List Step := done.zipIdx.map fun (s, i) =>
    { runId := b.runId, flow := b.flow, index := i, pass := s.pass, outcome := s.outcome,
      duration := s.duration, error := s.error.map fun m => .fault (.message m) }
  let failure : Option Failure := (done.zipIdx.find? (·.1.error.isSome)).map fun (s, i) =>
    { flow := b.flow, pass := s.pass, index := i, error := .fault (.message (s.error.getD "")) }
  let elapsed := if b.finishedAfter > 0 then b.finishedAfter else (done.map (·.duration)).foldl (· + ·) 0
  { runId := b.runId, flow := b.flow, plan := b.plan.getD (b.steps.map (·.pass)),
    state := if failure.isSome then .failed else .completed, steps, startedAt := b.started,
    finishedAt := b.started.addNanos elapsed, failure }

/-- A two-pass run in which the first pass changed the model and the second did nothing,
taking 2ms. -/
def completedReport (runId : String) (flow : Flow.Name) (started : Instant) : Report :=
  let steps : List StepSpec :=
    [{ pass := "b:one", outcome := .transformed, duration := 1500000 }, { pass := "b:two", duration := 20000 }]
  Builder.build { runId, flow, started, finishedAfter := 2000000, steps }

/-- A three-pass run whose second pass fails with "bad attr", taking 1ms. -/
def failedReport (runId : String) (flow : Flow.Name) (started : Instant) : Report :=
  let steps : List StepSpec := [{ pass := "b:one" }, { pass := "b:two", error := some "bad attr" }]
  Builder.build { runId, flow, started, finishedAfter := 1000000, plan := some ["b:one", "b:two", "b:three"], steps }

end PassPlan.Run
