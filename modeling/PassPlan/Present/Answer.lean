import PassPlan.Present.Service
import PassPlan.Model.File
import PassPlan.History.Repository
import PassPlan.Graph.Snapshot
import PassPlan.Json.Value
import PassPlan.Workspace.Files
import PassPlan.Trace.Record
import PassPlan.Present.Document
import PassPlan.Diff.Lines
/-!
Answers in JSON: the library's values in their JSON forms, and failures as their message with
the classes they belong to, outermost first. A failure's kind is its first class, or `error`
when it has none.
-/
namespace PassPlan

/-- A failure as JSON: its classes, its kind and its message. -/
def failureJson (classes : List String) (message : String) : Json :=
  .obj [("chain", .arr (classes.map .str)), ("error", .str (classes.headD "error")), ("message", .str message)]

/-- The classes of a flow failure. -/
def Flow.Error.classes : Flow.Error → List String
  | .invalidName _ => ["ErrInvalidName"]
  | .emptyFlow _ => ["ErrEmptyFlow"]
  | .blankPass _ _ => ["ErrInvalidPass"]
  | .frozen _ => ["ErrRegistryFrozen"]
  | .duplicate _ => ["DuplicateFlowError"]
  | .cycle _ => ["CyclicFlowDependencyError"]
  | .unknownReference _ _ => ["UnknownFlowReferenceError"]
  | .notFound _ _ => ["FlowNotFoundError"]
  | .anchorMissing _ _ _ => ["AnchorNotFoundError"]
  | .badPosition _ => []

/-- A flow failure as JSON. -/
def Flow.Error.toJson (e : Flow.Error) : Json := failureJson e.classes e.message

/-- The classes of a graph failure. -/
def GraphError.classes : GraphError → List String
  | .node _ .notFound => ["NodeError", "ErrNodeNotFound"]
  | .node _ .duplicate => ["NodeError", "ErrDuplicateNode"]
  | .node _ .invalidId => ["NodeError", "ErrInvalidNodeID"]
  | .edgeNotFound _ _ => ["ErrEdgeNotFound"]

/-- A graph failure as JSON. -/
def GraphError.toJson (e : GraphError) : Json := failureJson e.classes e.message

/-- The classes of a model load failure. -/
def Model.LoadError.classes : Model.LoadError → List String
  | .yaml _ => []
  | .typeErrors _ => ["YAMLTypeError"]
  | .graph _ g => g.classes

/-- A model that cannot be loaded, as JSON. -/
def Model.LoadError.toJson (e : Model.LoadError) : Json := failureJson e.classes e.message

/-- The classes of a pass fault. -/
def Pass.Fault.classes : Pass.Fault → List String
  | .failed _ _ => ["FailedError"]
  | .graph e => e.classes
  | _ => []

/-- The classes of a step failure. -/
def Run.StepError.classes : Run.StepError → List String
  | .notFound _ _ => ["PassNotFoundError", "ErrUnknownPass"]
  | .fault f => f.classes

/-- A run failure as JSON. -/
def Run.Failure.toJson (f : Run.Failure) : Json :=
  failureJson ("PassExecutionError" :: f.error.classes) f.text

/-- A failure of a run's state machine as JSON. -/
def Run.RunError.toJson (e : Run.RunError) : Json :=
  match e with
  | .transition _ _ => failureJson ["ErrInvalidTransition"] e.text
  | .resolve f => f.toJson
  | .execute f => f.toJson

/-- The classes of a backend failure. -/
def Backend.BackendError.classes : Backend.BackendError → List String
  | .invalid _ => ["ErrInvalidBackend"]
  | .duplicate _ => ["DuplicateBackendError"]
  | .notFound _ _ => ["BackendNotFoundError"]
  | .cycle _ => ["ParentCycleError"]

/-- A backend failure as JSON. -/
def Backend.BackendError.toJson (e : Backend.BackendError) : Json := failureJson e.classes e.message

/-- The classes of a pipeline file problem. -/
def Pipeline.FileProblem.classes : Pipeline.FileProblem → List String
  | .typeErrors _ => ["YAMLTypeError"]
  | .invalidBackend _ => ["ErrInvalidBackend"]
  | .backend e => e.classes
  | .build (.unknownKind _ _) => ["ErrUnknownKind"]
  | .register (.duplicate _) => ["DuplicatePassError"]
  | .flow e => e.classes
  | _ => []

/-- A pipeline file failure as JSON. -/
def Pipeline.FileError.toJson (e : Pipeline.FileError) : Json :=
  failureJson ("FileError" :: e.problem.classes) e.message

/-- The classes of a failure to load from a file tree. -/
def Workspace.LoadError.classes : Workspace.LoadError → List String
  | .cannotOpen .. | .unreadableDir _ => []
  | .model _ e => e.classes
  | .pipeline e => "FileError" :: e.problem.classes
  | .within _ e => e.classes

/-- A bring-up failure as JSON. -/
def Backend.BringUpError.toJson : Backend.BringUpError → Json
  | .file e => e.toJson
  | .backends e => e.toJson

/-- A history failure as JSON. -/
def History.HistoryError.toJson (e : History.HistoryError) : Json :=
  failureJson (match e with | .notFound _ => ["ReportNotFoundError"] | _ => []) e.text

/-- A service failure as JSON. -/
def Backend.ServiceError.toJson (e : Backend.ServiceError) : Json :=
  match e with
  | .backend b => b.toJson
  | .flow f => f.toJson
  | .historyDisabled => failureJson ["ErrHistoryDisabled"] e.message
  | .history h => h.toJson
  | _ => failureJson [] e.message

/-- Texts as a JSON array. -/
def textsJson (xs : List String) : Json := .arr (xs.map .str)

/-- A flow name as JSON: its text. -/
def Flow.Name.toJson (n : Flow.Name) : Json := .str n.text

/-- A flow definition as JSON; the backend is left out when global. -/
def Flow.Definition.toJson (d : Flow.Definition) : Json :=
  .obj ([("name", d.name.toJson)] ++ (if d.name.backend = "" then [] else [("backend", .str d.name.backend)]) ++
    [("passes", textsJson d.passes), ("requires", .arr (d.requires.map Flow.Name.toJson)),
      ("aggregate", .bool d.isAggregate)])

/-- A plan as JSON, with its length. -/
def Flow.Plan.toJson (p : Flow.Plan) : Json :=
  .obj [("flow", p.flow.toJson), ("passes", textsJson p.passes), ("len", .nat p.passes.length)]

/-- What each flow of a resolution contributed, as JSON. -/
def Flow.contributionsJson (cs : List Flow.Contribution) : Json :=
  .arr (cs.map fun c => .obj [("flow", c.flow.toJson), ("passes", textsJson c.passes)])

/-- A pipeline file as JSON. -/
def Pipeline.PipelineFile.toJson (f : Pipeline.PipelineFile) : Json :=
  let passJ (p : Pipeline.PassSpec) : Json :=
    .obj [("name", .str p.name), ("kind", .str p.kind), ("with", (Value.dict p.params).json)]
  let insJ (i : Pipeline.InsertSpec) : Json :=
    .obj [("before", .str i.before), ("after", .str i.after), ("flow", .str i.flow)]
  let flowJ (fl : Pipeline.FlowSpec) : Json :=
    .obj [("name", .str fl.name), ("passes", textsJson fl.passes), ("passes_from", .str fl.passesFrom),
      ("requires", textsJson fl.requires), ("derive_from", .str fl.deriveFrom),
      ("insert", .arr (fl.insert.map insJ)), ("aggregate", .bool fl.aggregate)]
  .obj [("source", .str f.source), ("backend", .str f.backend), ("parent", .str f.parent),
    ("description", .str f.description), ("default_flow", .str f.defaultFlow),
    ("writer_flow", .str f.writerFlow), ("global", .bool f.isGlobal),
    ("passes", .arr (f.passes.map passJ)), ("flows", .arr (f.flows.map flowJ))]

/-- A brought-up environment as JSON: its files, backends, flows and catalog. -/
def Backend.Environment.toJson (env : Backend.Environment) : Json :=
  .obj [("files", .arr (env.files.map fun f => .obj [("source", .str f.source), ("backend", .str f.backend)])),
    ("backends", textsJson env.backends.available), ("flow_backends", textsJson env.flows.backends),
    ("flows", .arr (env.flows.defs.map fun d => (Present.FlowView.ofDefinition d).toJson)),
    ("catalog", textsJson env.catalog.names), ("frozen", .bool env.flows.frozen)]

/-- A report as JSON with what it says about the run. -/
def Run.Report.toJson (r : Run.Report) : Json :=
  .obj [("dto", (Present.ReportView.ofReport r).toJson), ("succeeded", .bool r.succeeded),
    ("skipped", textsJson r.skipped), ("transformed", .nat r.transformed)]

/-- A recorded report as JSON, with its duration in microseconds. -/
def Run.Report.historyJson (r : Run.Report) : Json :=
  .obj [("dto", (Present.ReportView.ofReport r).toJson), ("succeeded", .bool r.succeeded),
    ("duration_us", .int (r.duration.tdiv 1000))]

/-- An execution event as JSON. -/
def Run.Event.toJson (e : Run.Event) : Json :=
  let s := e.step
  .obj ([("type", .str e.kind.name), ("index", .nat s.index), ("pass", .str s.pass),
    ("flow", s.flow.toJson), ("outcome", .str s.outcome.name), ("run_id", .str s.runId),
    ("failed", .bool s.error.isSome)] ++ (match s.error with
      | some err => [("error", .str err.text)]
      | none => []))

/-- A JSON value read without a shape, in its answer form: every number is a float. -/
def looseJson : Nat → Json → Json
  | 0, _ => .null
  | _ + 1, .num t => (Value.float ((floatOfText t).getD 0)).json
  | n + 1, .arr xs => .arr (xs.map (looseJson n))
  | n + 1, .obj kvs => .obj (kvs.map fun (k, v) => (k, looseJson n v))
  | _ + 1, j => j

/-- Span attributes as JSON, the run identifier left out since it differs from run to run. -/
def spanAttrsJson (kvs : List (String × Json)) : Json :=
  .obj (kvs.map fun (k, v) => (k, if k = "run.id" then .str "<run>" else looseJson (v.weight + 1) v))

/-- The summary of a span record as JSON. -/
def Trace.Summary.toJson (s : Trace.Summary) : Json :=
  .obj [("name", .str s.name), ("parent", (s.parent.map Json.str).getD .null), ("status", .str s.status),
    ("status_message", .str s.statusMessage), ("attrs", spanAttrsJson s.attributes),
    ("events", .arr (s.events.map fun e => .obj [("name", .str e.name), ("attrs", spanAttrsJson e.attributes)])),
    ("has_trace_id", .bool s.hasTrace)]

/-- A value that may be missing, as JSON: whether it was found, and it. -/
def foundJson (v : Option Value) : Json :=
  .obj [("found", .bool v.isSome), ("value", (v.map Value.json).getD .null)]

/-- The parts of a flow name as JSON members. -/
def Flow.Name.partsJson (n : Flow.Name) : List (String × Json) :=
  [("backend", .str n.backend), ("flow", .str n.flow)]

/-- Flow names as a JSON array of their texts. -/
def namesJson (ns : List Flow.Name) : Json := .arr (ns.map Flow.Name.toJson)

/-- The sign of a line edit: kept, added or removed. -/
def Diff.Op.sign : Diff.Op → String
  | .equal => "="
  | .insert => "+"
  | .delete => "-"

/-- The line edits from one list of lines to another, as JSON pairs of sign and line. -/
def lineDiffJson (a b : List String) : Json :=
  .arr ((Diff.lineDiff a b).map fun l => .arr [.str l.op.sign, .str l.text])

/-- A compiled run as JSON: its report, the model after it and its failure. -/
def Backend.Compiled.toJson (c : Backend.Compiled) : Json :=
  .obj [("report", Run.Report.toJson c.report), ("model", c.model.snapshot),
    ("error", (c.report.failure.map Run.Failure.toJson).getD .null)]

/-- A requirement comparison as JSON, with the line edits of the requirements and of the plans. -/
def Present.DiffView.answerJson (d : Present.DiffView) : Json :=
  .obj [("dto", d.toJson), ("requires", lineDiffJson (d.aRequires.getD []) (d.bRequires.getD [])),
    ("plan", lineDiffJson (d.aPlan.getD []) (d.bPlan.getD []))]

/-- A backend of a service as JSON, with its lineage and whether it is the default. -/
def Backend.Service.backendJson (svc : Backend.Service) (b : Backend) : Json :=
  (Present.BackendView.ofBackend b ((svc.env.backends.lineage b.name).toOption.getD []) svc.defaultBackend).toJson

/-- A document as printed text at a width. -/
def Present.Document.printedJson (d : Present.Document) (width : Int) : Json :=
  .str (Present.printed (d.text (Present.widthOf width)))

end PassPlan
