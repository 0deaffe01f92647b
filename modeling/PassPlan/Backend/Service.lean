import PassPlan.Backend.BringUp
import PassPlan.Flow.Resolver
import PassPlan.Run.Machine
import PassPlan.Cache.Store
import PassPlan.History.Repository
/-!
The service over a brought-up environment: it looks up backends and flows, reads the flow
names users write, resolves and explains plans, compiles flows over models, checks that every
plan's passes exist, and sets two flows side by side. Plans are memoised by the resolver and
explanations are read through a cache; the environment never changes, so neither is seen in
an answer except through the text key both are kept under.
-/
namespace PassPlan.Backend

/-- Why a service request fails. -/
inductive ServiceError where
  /-- A backend lookup failed. -/
  | backend (e : BackendError)
  /-- A flow could not be read, found or resolved. -/
  | flow (e : Flow.Error)
  /-- The backend names no default flow. -/
  | noDefaultFlow (backend : String)
  /-- The backend names no writer flow. -/
  | noWriterFlow (backend : String)
  /-- No run history is kept. -/
  | historyDisabled
  /-- The run history failed. -/
  | history (e : History.HistoryError)
deriving Repr

/-- The message of a service failure. -/
def ServiceError.message : ServiceError → String
  | .backend e => e.message
  | .flow e => e.message
  | .noDefaultFlow b => "backend " ++ b ++ " has no default flow"
  | .noWriterFlow b => "backend " ++ b ++ " has no writer flow"
  | .historyDisabled => "run history is disabled"
  | .history e => e.text

/-- A pass that a plan names and the catalog does not hold. -/
structure MissingPass where
  flow : Flow.Name
  pass : String
deriving DecidableEq, Repr

/-- Two flows' requirements and plans side by side. -/
structure RequirementDiff where
  a : Flow.Name
  b : Flow.Name
  aRequires : List Flow.Name := []
  bRequires : List Flow.Name := []
  aPlan : List String := []
  bPlan : List String := []
deriving Repr

/-- What compiling a flow produced: the report, the model after the run and the executor's
events. -/
structure Compiled where
  report : Run.Report
  model : Graph
  events : List Run.Event := []

/-- A service: the environment, the backend bare names fall back to, the plan memo, the
explanation cache and the executor that numbers the runs. -/
structure Service where
  env : Environment
  defaultBackend : String := ""
  resolver : Flow.Resolver := {}
  explained : Cache.Store (List Flow.Contribution) := {}
  executor : Run.Executor
  /-- The database compiles are recorded in and how many of the newest runs it keeps, a count
  of zero or less keeping all; none when no history is kept. -/
  history : Option (Sql.Database × Int) := none
  /-- The id of the run with a number. -/
  runIds : Nat → String := Run.runId

namespace Service

/-- A service over an environment; the default backend is normalised. -/
def new (env : Environment) (executor : Run.Executor) (defaultBackend : String := "") : Service :=
  { env, executor, defaultBackend := Flow.normalizeBackend defaultBackend,
    resolver := Flow.Resolver.new env.flows.source }

/-- Every backend, sorted by name. -/
def backends (s : Service) : List Backend := s.env.backends.all

/-- One backend, in any case. -/
def backend (s : Service) (name : String) : Except ServiceError Backend :=
  (s.env.backends.get name).mapError .backend

/-- The flows of a backend in registration order; the empty backend lists the global flows. -/
def flows (s : Service) (backend : String) : List Flow.Definition := s.env.flows.list backend

/-- One flow definition. -/
def flow (s : Service) (n : Flow.Name) : Except ServiceError Flow.Definition :=
  (s.env.flows.get n).mapError .flow

/-- The flow a backend compiles by default. -/
def defaultFlow (s : Service) (backend : String) : Except ServiceError Flow.Name := do
  let b ← s.backend backend
  if b.defaultFlow.isZero then throw (.noDefaultFlow b.name) else pure b.defaultFlow

/-- The flow that writes a backend's artifacts. -/
def writerFlow (s : Service) (backend : String) : Except ServiceError Flow.Name := do
  let b ← s.backend backend
  if b.writerFlow.isZero then throw (.noWriterFlow b.name) else pure b.writerFlow

/-- Reads a flow reference as a user writes it: a name with a colon is taken as written, a
backend name stands for its default flow, a registered global flow for itself, and any other
bare name is a flow of the default backend when there is one. -/
def resolveName (s : Service) (ref : String) : Except ServiceError Flow.Name :=
  let ref := Text.trim ref
  let parse := (Flow.Name.parse ref).mapError fun e => ServiceError.flow (.invalidName e)
  if ref.toList.contains ':' then parse
  else if s.env.backends.has ref then s.defaultFlow ref
  else do
    let n ← parse
    if s.env.flows.has n || s.defaultBackend = "" then pure n
    else pure (Flow.Name.qualified s.defaultBackend ref)

/-- Resolves a flow into its plan through the memo. -/
def plan (s : Service) (n : Flow.Name) : Service × Except Flow.Error Flow.Plan :=
  let (resolver, r) := s.resolver.resolve s.env.flows.source n
  ({ s with resolver }, r)

/-- Attributes each pass of a plan to the flow that placed it, through the cache. -/
def explain (s : Service) (n : Flow.Name) : Service × Except Flow.Error (List Flow.Contribution) :=
  match s.explained.get? n.text with
  | some cs => (s, .ok cs)
  | none =>
    let (resolver, r) := s.resolver.explain s.env.flows.source n
    let s := { s with resolver }
    match r with
    | .ok cs => ({ s with explained := s.explained.set n.text cs }, .ok cs)
    | .error e => (s, .error e)

/-- Runs a resolved plan over a model and records the report when history is kept. -/
def runPlan (s : Service) (p : Flow.Plan) (g : Graph) : Service × Compiled :=
  let (executor, out) := s.executor.executeAs (s.runIds s.executor.nextRun) p g s.env.catalog.lookup
  ({ s with executor, history := s.history.map (record out.report) }, ⟨out.report, out.model, out.events⟩)
where
  /-- Records a report, then prunes to the kept count; a failure of either leaves the history
  as it stood before that step. -/
  record (r : Run.Report) : Sql.Database × Int → Sql.Database × Int
    | (db, keep) =>
      match History.save db r with
      | .error _ => (db, keep)
      | .ok db =>
        if keep > 0 then
          match History.prune db keep with
          | .ok (db, _) => (db, keep)
          | .error _ => (db, keep)
        else (db, keep)

/-- Resolves a flow and runs its plan over a model. A flow that does not resolve gives no
report; a failing pass is told by the report. -/
def compile (s : Service) (n : Flow.Name) (g : Graph) : Service × Except Flow.Error Compiled :=
  match s.plan n with
  | (s, .error e) => (s, .error e)
  | (s, .ok p) => let (s, c) := s.runPlan p g; (s, .ok c)

/-- The recorded runs a filter matches, newest first. -/
def runs (s : Service) (f : History.Filter) : Except ServiceError (List Run.Report) :=
  match s.history with
  | none => .error .historyDisabled
  | some (db, _) => (History.list db f).mapError .history

/-- One recorded run. -/
def run (s : Service) (runId : String) : Except ServiceError Run.Report :=
  match s.history with
  | none => .error .historyDisabled
  | some (db, _) => (History.find db runId).mapError .history

/-- Keeps the newest recorded runs: the number removed. -/
def pruneHistory (s : Service) (keep : Int) : Service × Except ServiceError Nat :=
  match s.history with
  | none => (s, .error .historyDisabled)
  | some (db, k) =>
    match History.prune db keep with
    | .ok (db, n) => ({ s with history := some (db, k) }, .ok n)
    | .error e => (s, .error (.history e))

/-- The passes each plan names in turn that the catalog does not hold, over the flows taken in
registration order. -/
def missingFrom (s : Service) : List Flow.Definition → List MissingPass →
    Service × Except Flow.Error (List MissingPass)
  | [], acc => (s, .ok acc)
  | d :: rest, acc =>
    match s.plan d.name with
    | (s, .error e) => (s, .error e)
    | (s, .ok p) =>
      let found := (p.passes.filter fun x => !s.env.catalog.has x).map fun x => ⟨d.name, x⟩
      missingFrom s rest (acc ++ found)

/-- Resolves every flow and lists the plan entries the catalog cannot supply, by flow name;
the first flow that does not resolve is the answer instead. -/
def check (s : Service) : Service × Except Flow.Error (List MissingPass) :=
  match s.missingFrom s.env.flows.defs [] with
  | (s, .ok ms) => (s, .ok (ms.mergeSort fun x y => decide (x.flow.text ≤ y.flow.text)))
  | r => r

/-- One side of a requirement diff: the flow's requirements and its plan, or why there are
none. -/
def diffSide (s : Service) (n : Flow.Name) :
    Service × Except Flow.Error (List Flow.Name × List String) :=
  match s.env.flows.get n with
  | .error e => (s, .error e)
  | .ok d => match s.plan n with
    | (s, .error e) => (s, .error e)
    | (s, .ok p) => (s, .ok (d.requires, p.passes))

/-- The requirements and plans of two flows; the first side that is missing or does not
resolve is the answer instead. -/
def requirementDiff (s : Service) (a b : Flow.Name) : Service × Except Flow.Error RequirementDiff :=
  match s.diffSide a with
  | (s, .error e) => (s, .error e)
  | (s, .ok (ar, ap)) => match s.diffSide b with
    | (s, .error e) => (s, .error e)
    | (s, .ok (br, bp)) => (s, .ok ⟨a, b, ar, br, ap, bp⟩)

end Service
end PassPlan.Backend
