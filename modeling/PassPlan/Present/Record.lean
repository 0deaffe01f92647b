import PassPlan.Run.Report
import PassPlan.Json.Basic
import PassPlan.Decimal.Format
import PassPlan.Value.Rfc3339
/-!
Presentation records: the flat forms in which backends, flows, plans, run reports, missing
passes and flow differences are shown, with names as text and durations in milliseconds, and
their JSON objects. Members appear in a fixed order; optional text members are left out when
empty, and optional lists when empty. A list a record must show may be absent, as when it is
read from JSON without one: it shows as `null`, and counts as empty everywhere else.
-/
namespace PassPlan.Present

/-- A backend as shown. -/
structure BackendView where
  name : String := ""
  display : String := ""
  parent : String := ""
  lineage : List String := []
  description : String := ""
  defaultFlow : String := ""
  writerFlow : String := ""
  source : String := ""
  isDefault : Bool := false
deriving Repr, Inhabited

/-- A flow definition as shown. -/
structure FlowView where
  name : String := ""
  backend : String := ""
  passes : Option (List String) := none
  requires : Option (List String) := none
  aggregate : Bool := false
deriving Repr, Inhabited

/-- The passes one flow adds to a plan. -/
structure ContributionView where
  flow : String := ""
  passes : Option (List String) := none
deriving Repr, Inhabited

/-- A resolved plan, with the contributions of each flow when explained. -/
structure PlanView where
  flow : String := ""
  passes : Option (List String) := none
  contributions : List ContributionView := []
deriving Repr, Inhabited

/-- One attempted pass of a run. -/
structure StepView where
  index : Int := 0
  pass : String := ""
  outcome : String := ""
  durationMs : Float := 0
  error : String := ""
deriving Repr, Inhabited

/-- The failure that stopped a run. -/
structure FailureView where
  pass : String := ""
  index : Int := 0
  error : String := ""
deriving Repr, Inhabited

/-- A run report as shown. -/
structure ReportView where
  runId : String := ""
  flow : String := ""
  state : String := ""
  plan : Option (List String) := none
  steps : Option (List StepView) := none
  transformed : Int := 0
  skipped : List String := []
  failure : Option FailureView := none
  startedAt : Instant := ⟨0, 0, 0⟩
  finishedAt : Instant := ⟨0, 0, 0⟩
  durationMs : Float := 0
deriving Repr, Inhabited

/-- A pass that a flow names and no catalog provides. -/
structure MissingView where
  flow : String := ""
  pass : String := ""
deriving Repr, Inhabited

/-- Two flows side by side: their requirements and their plans. -/
structure DiffView where
  a : String := ""
  b : String := ""
  aRequires : Option (List String) := none
  bRequires : Option (List String) := none
  aPlan : Option (List String) := none
  bPlan : Option (List String) := none
deriving Repr, Inhabited

/-- Whole microseconds of a nanosecond count, as milliseconds. -/
def millis (nanos : Int) : Float := Float.ofInt (nanos.tdiv 1000) / 1000

/-- The text of a name, empty for the zero name. -/
def nameText (n : Flow.Name) : String := if n.isZero then "" else n.text

/-- The view of a flow definition. -/
def FlowView.ofDefinition (d : Flow.Definition) : FlowView :=
  { name := d.name.text, backend := d.name.backend, passes := some d.passes,
    requires := some (d.requires.map Flow.Name.text), aggregate := d.isAggregate }

/-- The view of a plan and the contributions that explain it. -/
def PlanView.ofPlan (p : Flow.Plan) (cs : List Flow.Contribution) : PlanView :=
  { flow := p.flow.text, passes := some p.passes,
    contributions := cs.map fun c => ⟨c.flow.text, some c.passes⟩ }

/-- The view of a step: a failed step shows its error and the outcome `failed`. -/
def StepView.ofStep (s : Run.Step) : StepView :=
  let base : StepView := ⟨s.index, s.pass, s.outcome.name, millis s.duration, ""⟩
  match s.error with
  | some e => { base with outcome := "failed", error := e.text }
  | none => base

/-- The view of a run report. -/
def ReportView.ofReport (r : Run.Report) : ReportView :=
  { runId := r.runId, flow := r.flow.text, state := r.state.name, plan := some r.plan,
    steps := some (r.steps.map StepView.ofStep), transformed := r.transformed, skipped := r.skipped,
    failure := r.failure.map fun f => ⟨f.pass, f.index, f.error.text⟩,
    startedAt := r.startedAt, finishedAt := r.finishedAt, durationMs := millis r.duration }

/-- Milliseconds as a JSON number. -/
def msJson (f : Float) : Json := .num (Decimal.jsonText f)

/-- A list of texts as a JSON array. -/
def textsJson (xs : List String) : Json := .arr (xs.map .str)

/-- A list that may be absent as JSON: an array, or `null` when absent. -/
def listedJson (f : α → Json) : Option (List α) → Json
  | some xs => .arr (xs.map f)
  | none => .null

/-- A member kept only when the text is not empty. -/
def textMember (k v : String) : List (String × Json) := if v = "" then [] else [(k, .str v)]

/-- A member kept only when the list is not empty. -/
def listMember (k : String) (xs : List String) : List (String × Json) :=
  if xs.isEmpty then [] else [(k, textsJson xs)]

/-- The JSON object of a backend. -/
def BackendView.toJson (b : BackendView) : Json :=
  .obj ([("name", .str b.name), ("display", .str b.display)] ++ textMember "parent" b.parent ++
    listMember "lineage" b.lineage ++ textMember "description" b.description ++
    textMember "default_flow" b.defaultFlow ++ textMember "writer_flow" b.writerFlow ++
    textMember "source" b.source ++ [("default", .bool b.isDefault)])

/-- The JSON object of a flow. -/
def FlowView.toJson (f : FlowView) : Json :=
  .obj ([("name", .str f.name)] ++ textMember "backend" f.backend ++
    [("passes", listedJson .str f.passes), ("requires", listedJson .str f.requires),
      ("aggregate", .bool f.aggregate)])

/-- The JSON object of a plan. -/
def PlanView.toJson (p : PlanView) : Json :=
  let cs := p.contributions.map fun c =>
    Json.obj [("flow", .str c.flow), ("passes", listedJson .str c.passes)]
  .obj ([("flow", .str p.flow), ("passes", listedJson .str p.passes)] ++
    (if cs.isEmpty then [] else [("contributions", .arr cs)]))

/-- The JSON object of a step. -/
def StepView.toJson (s : StepView) : Json :=
  .obj ([("index", .int s.index), ("pass", .str s.pass), ("outcome", .str s.outcome),
    ("duration_ms", msJson s.durationMs)] ++ textMember "error" s.error)

/-- The JSON object of a failure. -/
def FailureView.toJson (f : FailureView) : Json :=
  .obj [("pass", .str f.pass), ("index", .int f.index), ("error", .str f.error)]

/-- The JSON object of a report. -/
def ReportView.toJson (r : ReportView) : Json :=
  .obj ([("run_id", .str r.runId), ("flow", .str r.flow), ("state", .str r.state),
    ("plan", listedJson .str r.plan), ("steps", listedJson StepView.toJson r.steps),
    ("transformed", .int r.transformed)] ++ listMember "skipped" r.skipped ++
    (match r.failure with
      | some f => [("failure", f.toJson)]
      | none => []) ++
    [("started_at", .str r.startedAt.rfc3339), ("finished_at", .str r.finishedAt.rfc3339),
      ("duration_ms", msJson r.durationMs)])

/-- Why a report has no JSON form: a time of it has no standard text. -/
def ReportView.jsonProblem? (r : ReportView) : Option String :=
  [r.startedAt, r.finishedAt].findSome? fun t =>
    t.strictProblem?.map fun p => "json: error calling MarshalJSON for type *time.Time: " ++ p

/-- The JSON object of a missing pass. -/
def MissingView.toJson (m : MissingView) : Json := .obj [("flow", .str m.flow), ("pass", .str m.pass)]

/-- The JSON object of a difference. -/
def DiffView.toJson (d : DiffView) : Json :=
  .obj [("a", .str d.a), ("b", .str d.b), ("a_requires", listedJson .str d.aRequires),
    ("b_requires", listedJson .str d.bRequires), ("a_plan", listedJson .str d.aPlan),
    ("b_plan", listedJson .str d.bPlan)]

end PassPlan.Present
