import PassPlan.Config.Settings
import PassPlan.Config.Flags
import PassPlan.Workspace.Tree
import PassPlan.Text.Quoted
/-!
The whole of the settings, their defaults and the commented file they start from. Default
paths live in a directory under the home directory and are empty when there is none. A
pipelines directory, when one is set, must be an existing directory.
-/
namespace PassPlan.Config

open Workspace (Tree)

/-- The name of the program's settings directory. -/
def appName : String := "passflow"

/-- All the settings. -/
structure Settings where
  /-- The directory whose YAML files replace the built-in pipelines; empty keeps them. -/
  pipelinesDir : String := ""
  defaultBackend : String := ""
  debug : Bool := false
  logPath : String := ""
  history : History := {}
  watch : Watch := {}
  tracing : Tracing := {}
  flags : Option Flags := none

/-- The settings directory under a home directory; empty without one. -/
def configDir (home : Option String) : String :=
  match home with
  | some h => if h = "" then "" else Workspace.Path.join [h, ".config", appName]
  | none => ""

/-- The default history database path. -/
def historyPath (home : Option String) : String :=
  let d := configDir home
  if d = "" then "" else Workspace.Path.join [d, "history.db"]

/-- The default path of the trace file. -/
def tracesPath (home : Option String) : String :=
  let d := configDir home
  if d = "" then "" else Workspace.Path.join [d, "traces", "traces.jsonl"]

/-- The tracing defaults: disabled, with the file exporter chosen. -/
def Tracing.defaults : Tracing :=
  { exporter := "file", otlpEndpoint := "localhost:4317", sampleRate := 1, serviceName := "passflow" }

/-- The default settings for a home directory. -/
def Settings.defaults (home : Option String) : Settings :=
  { defaultBackend := "vivado", logPath := "debug.log",
    history := { enabled := true, path := historyPath home, keep := 500 },
    watch := { debounce := 500000000 },
    tracing := { Tracing.defaults with filePath := tracesPath home } }

/-- The problem of a pipelines directory: it must exist and be a directory. -/
def pipelinesDirProblem (t : Tree) (dir : String) : Option String :=
  if dir = "" then none
  else
    match t.entry true dir with
    | .error e => some ("pipelines_dir: " ++ (Workspace.PathError.mk "stat" dir e).text)
    | .ok .dir => none
    | .ok _ => some ("pipelines_dir " ++ Text.quote dir ++ " is not a directory")

/-- The problems of all the settings, one per line. -/
def Settings.problem (t : Tree) (s : Settings) : Option String :=
  joinProblems [pipelinesDirProblem t s.pipelinesDir, s.history.problem, s.watch.problem, s.tracing.problem]

/-- The settings file a new installation starts with. -/
def template : String :=
  "# passflow configuration\n\n# Directory of pipeline files (*.yaml). Empty uses the built-in vivado,\n# vitis and vitisaccelerator pipelines.\n# pipelines_dir: ./pipelines\n\n# Backend used when a flow name has no \"<backend>:\" prefix and no global\n# flow of that name exists.\ndefault_backend: vivado\n\n# Write debug logs to log_path (also enabled by --debug or PASSFLOW_DEBUG=1).\ndebug: false\nlog_path: debug.log\n\nhistory:\n  enabled: true\n  # path: ~/.config/passflow/history.db\n  keep: 500\n\nwatch:\n  debounce: 500ms\n\ntracing:\n  enabled: false\n  exporter: file        # none, file, stdout, otlp\n  # file_path: ~/.config/passflow/traces/traces.jsonl\n  otlp_endpoint: localhost:4317\n  sample_rate: 1.0\n  service_name: passflow\n\n# Opt-in behavior.\n# flags:\n#   strict-pipelines: true  # reject pipelines whose flows use unregistered passes\n"

/-- Writes the starting settings file, making its directory. -/
def writeTemplate (t : Tree) (path : String) : Except String Tree := do
  let t ← (t.mkdirAll (Workspace.Path.dir path)).mapError fun e => "creating config directory: " ++ e.text
  (t.writeText path template).mapError fun e => "writing config file: " ++ e.text

end PassPlan.Config
