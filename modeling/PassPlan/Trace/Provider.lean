import PassPlan.Trace.Record
import PassPlan.Config.Settings
import PassPlan.Workspace.Tree
/-!
The tracing provider. A provider that is off starts spans but keeps none. One that is on
checks its settings, then sets up where spans go: a file that spans are appended to, standard
output, a collector, or nowhere. The file is made, with its directory, when the provider
starts; the spans are written when it shuts down, in the order they ended.
-/
namespace PassPlan.Trace

open Workspace (Tree)

/-- A file that spans are appended to, and whether it is still open. -/
structure FileExporter where
  path : String
  isOpen : Bool := true
deriving Repr, Inhabited

namespace FileExporter

/-- Opens the file at a path for appending, making its directory and the file when missing. -/
def create (t : Tree) (path : String) : Except String (Tree × FileExporter) := do
  let clean := Workspace.Path.clean path
  let t ← (t.mkdirAll (Workspace.Path.dir clean)).mapError fun e => "create trace directory: " ++ e.text
  let existing := (t.readText clean).toOption.getD ""
  let t ← (t.writeText clean existing).mapError fun e => "open trace file: " ++ e.text
  pure (t, { path := clean })

/-- Appends the records of spans; a closed exporter refuses. -/
def write (t : Tree) (e : FileExporter) (spans : List Span) (at_ : Instant) : Except String Tree :=
  if !e.isOpen then .error "file exporter is shut down"
  else
    let existing := (t.readText e.path).toOption.getD ""
    (t.writeText e.path (existing ++ String.join (spans.map (·.recordLine at_)))).mapError (·.text)

/-- Closes the exporter; closing it again does nothing. -/
def shutdown (e : FileExporter) : FileExporter := { e with isOpen := false }

end FileExporter

/-- Where ended spans go. -/
inductive Exporter where
  | none
  | file (e : FileExporter)
  | stdout
  | collector (endpoint : String)
deriving Repr, Inhabited

/-- A tracing provider: whether it is on, its tracer and its exporter. -/
structure Provider where
  enabled : Bool := false
  tracer : Tracer := { recording := false }
  exporter : Exporter := .none
deriving Repr, Inhabited

/-- Starts a provider from the tracing settings. -/
def Provider.start (t : Tree) (c : Config.Tracing) : Except String (Tree × Provider) := do
  if !c.enabled then return (t, {})
  if let some p := c.ownProblem then throw p
  let (t, exporter) ← match c.exporter with
    | "file" => do
      let (t, e) ← (FileExporter.create t c.filePath).mapError ("create file exporter: " ++ ·)
      pure (t, Exporter.file e)
    | "stdout" => pure (t, .stdout)
    | "otlp" => pure (t, .collector (if c.otlpEndpoint = "" then "localhost:4317" else c.otlpEndpoint))
    | _ => pure (t, .none)
  pure (t, { enabled := true, tracer := {}, exporter })

/-- Shuts a provider down, writing the ended spans where they go. -/
def Provider.shutdown (t : Tree) (p : Provider) (at_ : Instant) : Tree × Option String :=
  match p.exporter with
  | .file e =>
    match e.write t p.tracer.ended at_ with
    | .ok t => (t, none)
    | .error m => (t, some m)
  | _ => (t, none)

/-- The summaries of the spans in a trace file; none when the file does not exist. -/
def fileSummary (t : Tree) (path : String) : Except String (Option (List Summary)) :=
  match t.readText path with
  | .error e => if e.errno = .noent then .ok none else .error e.text
  | .ok text => (readRecords text).map fun rs => some (summarize rs)

end PassPlan.Trace
