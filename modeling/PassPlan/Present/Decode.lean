import PassPlan.Json.Access
import PassPlan.Present.Answer
import PassPlan.Flow.Derive
import PassPlan.Run.Builder
import PassPlan.Workspace.Tree
import PassPlan.Trace.Span
import PassPlan.Pipeline.Defaults
import PassPlan.Log.Line
import PassPlan.Config.Settings
/-!
Reading the library's values from their JSON forms. A flow name is its text, or an object of
its backend and flow; a report is built from its run, flow, start and attempted passes; a file
tree starts from texts, directories and links by path. A value that cannot be read gives the
answer that tells why: the library's own failure when the library refused it, or a request
that could not be read.
-/
namespace PassPlan.Decode

open PassPlan.Flow

/-- Reading steps; a failure is the answer to give. -/
abbrev Read := Except Json

/-- The answer to a request that could not be read. -/
def malformed (m : String) : Json := .obj [("error", .str "bad_input"), ("message", .str m)]

/-- A flow name from its text. -/
def flowName (s : String) : Read Name := (Name.parse s).mapError fun e => Flow.Error.toJson (.invalidName e)

/-- A flow name: its text, an object of its parts, or the empty name. -/
def name (j : Json) : Read Name :=
  match j with
  | .str s => flowName s
  | .obj _ => pure ⟨j.text "backend", j.text "flow"⟩
  | _ => pure Name.zero

/-- The flow name in a member. -/
def nameAt (j : Json) (k : String) : Read Name := name (j.get k)

/-- The flow names in a member. -/
def names (j : Json) (k : String) : Read (List Name) := (j.items k).mapM name

/-- A position: its word, or its code. -/
def position (j : Json) : Read Position :=
  match j with
  | .str "before" | .null => pure .before
  | .str "after" => pure .after
  | .num t => pure (Position.ofCode (t.toInt?.getD 0))
  | .str s => throw (malformed ("bad position " ++ Text.quote s))
  | _ => throw (malformed "bad position")

/-- The insertions in a member. -/
def insertions (j : Json) (k : String) : Read (List Insertion) :=
  (j.items k).mapM fun i => do
    pure ⟨← nameAt i "anchor", ← nameAt i "flow", ← position (i.get "position")⟩

/-- A flow definition: its name, passes and requirements. -/
def definition (f : Json) : Read Definition := do
  pure ⟨← nameAt f "name", f.texts "passes", ← names f "requires"⟩

/-- The model in the `model` member as YAML text; an empty graph without one. -/
def model (j : Json) : Read Graph :=
  match j.field? "model" with
  | some (.str t) => (Model.load t).mapError Model.LoadError.toJson
  | _ => pure {}

/-- Pass parameters in the `with` member: a YAML text or a JSON object. -/
def params (j : Json) : Read Pass.Params :=
  match j.field? "with" with
  | some (.str t) => match Yaml.decodeText .dict t with
    | .value (.dict a) => pure a
    | .value _ => pure []
    | .typeErrors ls => throw (malformed ("with: " ++ Yaml.typeErrorMessage ls))
    | .fault m => throw (malformed ("with: " ++ m))
  | some (.obj kvs) => match (Json.obj kvs).value with
    | .dict a => pure a
    | _ => pure []
  | _ => pure []

/-- The entries of a directory: texts are files, nulls directories. -/
def entries : Json → List (String × Pipeline.Entry)
  | .obj kvs => kvs.filterMap fun (k, v) => match v with
    | .str t => some (k, .file t)
    | .null => some (k, .dir)
    | _ => none
  | _ => []

/-- Pipeline files: the default ones when asked, those of a directory, and given texts. -/
def pipelineFiles (j : Json) : Read (List Pipeline.PipelineFile) := do
  let embedded ← if j.flag "embedded" then Pipeline.embedded.mapError Pipeline.FileError.toJson else pure []
  let fromFs ← match j.field? "fs" with
    | some fs => (Pipeline.loadAll (entries fs)).mapError Pipeline.FileError.toJson
    | none => pure []
  let given ← (j.items "files").mapM fun f =>
    (Pipeline.parse (f.text "text") (f.text "source")).mapError Pipeline.FileError.toJson
  pure (embedded ++ fromFs ++ given)

/-- A time member in RFC 3339, or a default when missing. -/
def timeAt (j : Json) (k : String) (d : Instant) : Read Instant :=
  match j.field? k with
  | some (.str s) => (Instant.ofRfc3339 s).mapError fun _ => malformed ("bad time " ++ Text.quote s)
  | _ => pure d

/-- When hand-built runs start unless told otherwise. -/
def specStart : Instant := ⟨Civil.toSeconds ⟨2026, 3, 1, 12, 0, 0⟩, 0, 0⟩

/-- One attempted pass of a hand-built run; durations are in microseconds. -/
def stepSpec (s : Json) : Run.StepSpec :=
  let outcome : Pass.Outcome := match s.opt "outcome" with
    | some o => .ofCode (o.int?.getD 0)
    | none => if s.flag "transformed" then .transformed else .noop
  ⟨s.text "pass", outcome, s.integer "took_us" * 1000, (s.field? "error").bind Json.str?⟩

/-- A hand-built report. -/
def report (j : Json) : Read Run.Report := do
  let b : Run.Builder := ⟨j.text "run_id", ← nameAt j "flow", ← timeAt j "started" specStart,
    (j.field? "plan").bind Json.strs?, (j.items "steps").map stepSpec, j.integer "finished_after_us" * 1000⟩
  pure b.build

/-- A filter of recorded runs: by backend or flow, state and limit. -/
def filter (s : Json) : Read History.Filter := do
  let flow ← match s.field? "backend" with
    | some (.str b) => pure ⟨normalizeBackend b, ""⟩
    | _ => nameAt s "flow"
  let state ← match s.field? "state" with
    | some (.str t) => some <$> (Run.State.parse t).mapError (failureJson [])
    | _ => pure none
  pure ⟨flow, state, s.integer "limit"⟩

/-- The two fixed reports for a run id, flow and start. -/
def presets (j : Json) : Read (Run.Report × Run.Report) := do
  let n ← nameAt j "flow"
  let t ← timeAt j "started" specStart
  pure (Run.completedReport (j.text "run_id") n t, Run.failedReport (j.text "run_id") n t)

/-- What a file tree starts with, from the `files` member: texts, links and directories. -/
def seeds (j : Json) : List (String × Workspace.Tree.Seed) :=
  match j.get "files" with
  | .obj kvs => kvs.map fun (k, v) => (k, match v with
    | .str t => .text t
    | .obj _ => .link (v.text "symlink")
    | _ => .dir)
  | _ => []

/-- A number as a double; anything else is zero. -/
def float (j : Json) : Float :=
  match j.value with
  | .float f => f
  | .int i => Float.ofInt i
  | .uint n => n.toFloat
  | _ => 0

/-- Tracing settings. -/
def tracing (c : Json) : Config.Tracing :=
  ⟨c.flag "enabled", c.text "exporter", c.text "file_path", c.text "otlp_endpoint", float (c.get "sample_rate"),
    c.text "service_name"⟩

/-- An attribute value: whole numbers are integers, other numbers doubles, lists their items'
texts, and anything else its text. -/
def attrValue : Json → Trace.AttrValue
  | .num t => if t.any (fun c => c = '.' || c = 'e' || c = 'E') then .float (float (.num t)) else .int (t.toInt?.getD 0)
  | .bool b => .bool b
  | .str s => .str s
  | .arr xs => .strs (xs.map fun x => Log.fieldText x.value)
  | x => .str (Log.fieldText x.value)

/-- The attributes in the `attrs` member. -/
def attrs (j : Json) : List Trace.Attr :=
  match j.get "attrs" with
  | .obj kvs => kvs.map fun (k, v) => ⟨k, attrValue v⟩
  | _ => []

end PassPlan.Decode
