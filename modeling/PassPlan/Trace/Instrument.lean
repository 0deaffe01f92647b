import PassPlan.Trace.Span
import PassPlan.Backend.Service
/-!
Spans of the program's work. Bring-up has one span with an event per backend made ready;
resolving a flow has a span, with an event when its plan was already known; compiling has a
span over the resolution and the execution, and the execution one span per pass it ran. A
failure ends its span, and every span around it, as failed with the failure's type and
message.
-/
namespace PassPlan.Trace

open PassPlan.Backend

/-- The type of a flow failure as failure events name it. -/
def flowErrorType : Flow.Error → String
  | .duplicate _ => "*flow.DuplicateFlowError"
  | .cycle _ => "*flow.CyclicFlowDependencyError"
  | .unknownReference _ _ => "*flow.UnknownFlowReferenceError"
  | .notFound _ _ => "*flow.FlowNotFoundError"
  | .anchorMissing _ _ _ => "*flow.AnchorNotFoundError"
  | .badPosition _ => "*errors.errorString"
  | _ => "*fmt.wrapError"

/-- A flow failure to record. -/
def flowFailure (e : Flow.Error) : Failure := ⟨flowErrorType e, e.message⟩

/-- The type of a step failure as failure events name it. -/
def stepErrorType : Run.StepError → String
  | .notFound _ _ => "*pipeline.PassNotFoundError"
  | .fault (.failed _ _) => "*pass.FailedError"
  | .fault (.graph (.node _ _)) => "*graph.NodeError"
  | .fault (.graph _) => "*fmt.wrapError"
  | .fault _ => "*errors.errorString"

/-- The type of a bring-up failure as failure events name it. -/
def bringUpErrorType : BringUpError → String
  | .file _ => "*backend.FileError"
  | .backends (.duplicate _) => "*backend.DuplicateBackendError"
  | .backends (.notFound _ _) => "*backend.BackendNotFoundError"
  | .backends (.cycle _) => "*backend.ParentCycleError"
  | .backends _ => "*fmt.wrapError"

/-- Brings up an environment under a `backend.bringup` span, telling how far it got. -/
def tracedBringUpWith (t : Tracer) (kinds : Pass.Kinds) (files : List Pipeline.PipelineFile) :
    Tracer × Progress × Except BringUpError Environment :=
  let (t, span) := t.start "backend.bringup" none [⟨"files", .int files.length⟩]
  let (progress, r) := bringUpWith kinds files
  let span := progress.ready.foldl (fun s b => s.addEvent "backend.ready" [⟨"flow.backend", .str b.name⟩]) span
  match r with
  | .ok env =>
    let span := span.setAttrs [⟨"flows", .int env.flows.defs.length⟩, ⟨"passes", .int env.catalog.names.length⟩]
    (t.conclude span none, progress, .ok env)
  | .error e => (t.conclude span (some ⟨bringUpErrorType e, e.message⟩), progress, .error e)

/-- Brings up an environment under a `backend.bringup` span. -/
def tracedBringUp (t : Tracer) (kinds : Pass.Kinds) (files : List Pipeline.PipelineFile) :
    Tracer × Except BringUpError Environment :=
  let (t, _, r) := tracedBringUpWith t kinds files
  (t, r)

/-- Resolves a flow under a `flow.resolve` span. -/
def tracedPlan (s : Service) (t : Tracer) (parent : Option Span) (n : Flow.Name) :
    Service × Tracer × Except Flow.Error Flow.Plan :=
  let (t, span) := t.start "flow.resolve" parent [⟨"flow.name", .str n.text⟩, ⟨"flow.backend", .str n.backend⟩]
  let span := if (s.resolver.memo.get? n.text).isSome then span.addEvent "plan.cached" else span
  match s.plan n with
  | (s, .ok p) => (s, t.conclude (span.setAttrs [⟨"plan.size", .int p.passes.length⟩]) none, .ok p)
  | (s, .error e) => (s, t.conclude span (some (flowFailure e)), .error e)

/-- The spans of one execution: a `pipeline.execute` span under a parent, and a
`pipeline.pass` span under it for each pass that ran. -/
def executionSpans (t : Tracer) (parent : Span) (r : Run.Report) : Tracer :=
  let (t, exec) := t.start "pipeline.execute" (some parent)
    [⟨"run.id", .str r.runId⟩, ⟨"flow.name", .str r.flow.text⟩, ⟨"flow.backend", .str r.flow.backend⟩,
      ⟨"plan.size", .int r.plan.length⟩]
  let passSpan (t : Tracer) (step : Run.Step) : Tracer :=
    let (t, span) := t.start "pipeline.pass" (some exec) [⟨"pass.name", .str step.pass⟩, ⟨"pass.index", .int step.index⟩]
    let failure := step.error.map fun e => ⟨stepErrorType e, e.text⟩
    match step.error with
    | some (.notFound _ _) => t.conclude span failure
    | _ => t.conclude (span.setAttrs [⟨"pass.outcome", .str step.outcome.name⟩]) failure
  let t := r.steps.foldl passSpan t
  match r.failure with
  | some f =>
    let exec := exec.addEvent "run.aborted" [⟨"skipped", .int (r.plan.length - f.index - 1 : Nat)⟩]
    t.conclude (exec.setAttrs [⟨"run.state", .str r.state.name⟩]) (some ⟨"*pipeline.PassExecutionError", f.text⟩)
  | none => t.conclude (exec.setAttrs [⟨"run.state", .str r.state.name⟩]) none

/-- Compiles a flow over a model under a `backend.compile` span. -/
def tracedCompile (s : Service) (t : Tracer) (n : Flow.Name) (g : Graph) :
    Service × Tracer × Except Flow.Error Compiled :=
  let (t, span) := t.start "backend.compile" none [⟨"flow.name", .str n.text⟩]
  match tracedPlan s t (some span) n with
  | (s, t, .error e) => (s, t.conclude span (some (flowFailure e)), .error e)
  | (s, t, .ok p) =>
    let (s, c) := s.runPlan p g
    let t := executionSpans t span c.report
    let span := span.setAttrs [⟨"run.id", .str c.report.runId⟩, ⟨"run.state", .str c.report.state.name⟩]
    let failure := c.report.failure.map fun f => (⟨"*pipeline.PassExecutionError", f.text⟩ : Failure)
    (s, t.conclude span failure, .ok c)

end PassPlan.Trace
