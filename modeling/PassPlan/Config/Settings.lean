import PassPlan.Value.Duration
import PassPlan.Decimal.Format
/-!
Settings: where pipeline files come from, the default backend, logging, the run history, the
watcher and tracing, and the feature flags. Each part is checked on its own and the problems
of all parts are joined one per line; a part has at most one problem, the first of its checks
that fails.
-/
namespace PassPlan.Config

/-- The run history settings. -/
structure History where
  enabled : Bool := false
  path : String := ""
  /-- How many runs are kept after each recorded run; zero keeps all. -/
  keep : Int := 0
deriving Repr, Inhabited

/-- The watcher settings. -/
structure Watch where
  /-- The quiet time before a change is acted on, in nanoseconds. -/
  debounce : Int := 0
deriving Repr, Inhabited

/-- The exporters spans can be sent to. -/
def exporters : List String := ["none", "file", "stdout", "otlp"]

/-- The tracing settings. -/
structure Tracing where
  enabled : Bool := false
  exporter : String := ""
  filePath : String := ""
  otlpEndpoint : String := ""
  /-- The fraction of traces kept. -/
  sampleRate : Float := 0
  serviceName : String := ""
deriving Repr, Inhabited

/-- The problem of the history settings. -/
def History.problem (h : History) : Option String :=
  if h.keep < 0 then some ("history.keep must be >= 0, got " ++ toString h.keep)
  else if h.enabled && h.path = "" then some "history.path is required when history is enabled"
  else none

/-- The problem of the watcher settings. -/
def Watch.problem (w : Watch) : Option String :=
  if w.debounce < 0 then some ("watch.debounce must not be negative, got " ++ Duration.text w.debounce)
  else none

/-- The problem of the tracing settings on their own: the exporter must be known or unset, the
sample rate at most one, and a file exporter that is enabled needs a path. -/
def Tracing.ownProblem (t : Tracing) : Option String :=
  if !(exporters.contains t.exporter || t.exporter = "") then
    some ("unsupported exporter type: " ++ t.exporter)
  else if t.sampleRate > 1 then some ("sample_rate must be <= 1.0, got " ++ Decimal.gText t.sampleRate)
  else if t.enabled && t.exporter = "file" && t.filePath = "" then some "file_path required for file exporter"
  else none

/-- The problem of the tracing settings. A rate that is not a number passes every bound. -/
def Tracing.problem (t : Tracing) : Option String :=
  if t.sampleRate < 0 || t.sampleRate > 1 then
    some ("tracing.sample_rate must be between 0.0 and 1.0, got " ++ Decimal.gText t.sampleRate)
  else match t.ownProblem with
    | some m => some ("tracing: " ++ m)
    | none =>
      if t.enabled && t.exporter = "otlp" && t.otlpEndpoint = "" then
        some "tracing.otlp_endpoint is required when exporter is \"otlp\""
      else none

/-- The problems of several parts joined one per line, none when no part has one. -/
def joinProblems (ps : List (Option String)) : Option String :=
  match ps.filterMap id with
  | [] => none
  | ms => some ("\n".intercalate ms)

end PassPlan.Config
