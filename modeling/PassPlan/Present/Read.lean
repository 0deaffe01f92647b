import PassPlan.Present.Record
import PassPlan.Json.Value
import PassPlan.Value.Rfc3339
/-!
Reading presentation records from JSON. Members match fields by name, exactly or else ignoring
the case of letters; unknown members are skipped and `null` leaves a field as it is. A member
of the wrong kind is a type error: the first one is reported after reading goes on, naming the
kind found, the record and the path of field names, and the type wanted. A time that is not an
RFC 3339 text stops reading at once.
-/
namespace PassPlan.Present

/-- Reading steps: the first type error so far, and failures that stop reading. -/
abbrev ReadM := StateT (Option String) (Except String)

/-- Where a member is read: the innermost record and the field names leading to it. -/
structure Place where
  record : String := ""
  path : List String := []

/-- The kind of a JSON value as type errors name it. -/
def kindName : Json → String
  | .null => "null"
  | .bool _ => "bool"
  | .num _ => "number"
  | .str _ => "string"
  | .arr _ => "array"
  | .obj _ => "object"

/-- The message of a type error. -/
def typeError (p : Place) (found type : String) : String :=
  if p.record = "" && p.path.isEmpty then
    "json: cannot unmarshal " ++ found ++ " into Go value of type " ++ type
  else
    "json: cannot unmarshal " ++ found ++ " into Go struct field " ++ p.record ++ "." ++
      ".".intercalate p.path ++ " of type " ++ type

/-- Records a type error unless an earlier one is recorded. -/
def mismatch (p : Place) (found type : String) : ReadM Unit :=
  modify fun e => e.orElse fun _ => some (typeError p found type)

/-- Reads a text. -/
def readText (p : Place) (cur : String) : Json → ReadM String
  | .str s => pure s
  | .null => pure cur
  | j => do mismatch p (kindName j) "string"; pure cur

/-- Reads a flag. -/
def readBool (p : Place) (cur : Bool) : Json → ReadM Bool
  | .bool b => pure b
  | .null => pure cur
  | j => do mismatch p (kindName j) "bool"; pure cur

/-- Reads a 64-bit integer; a number with a fraction or out of range is a type error. -/
def readInt (p : Place) (cur : Int) : Json → ReadM Int
  | .num t => match t.toInt? with
    | some i => if -(Nat.pow 2 63 : Int) ≤ i && i < Nat.pow 2 63 then pure i else do mismatch p ("number " ++ t) "int"; pure cur
    | none => do mismatch p ("number " ++ t) "int"; pure cur
  | .null => pure cur
  | j => do mismatch p (kindName j) "int"; pure cur

/-- Reads a double; a number beyond its range is a type error. -/
def readFloat (p : Place) (cur : Float) : Json → ReadM Float
  | .num t => match floatOfText t with
    | some f => if f.isInf then do mismatch p ("number " ++ t) "float64"; pure cur else pure f
    | none => do mismatch p ("number " ++ t) "float64"; pure cur
  | .null => pure cur
  | j => do mismatch p (kindName j) "float64"; pure cur

/-- Reads a list of texts into the one held; `null` is the empty list. -/
def readTexts (p : Place) (cur : List String) : Json → ReadM (List String)
  | .arr xs => xs.zipIdx.mapM fun (x, i) => readText p (cur.getD i "") x
  | .null => pure []
  | j => do mismatch p (kindName j) "[]string"; pure cur

/-- Reads a list of texts that may be absent into the one held; `null` makes it absent. -/
def readListed (p : Place) (cur : Option (List String)) : Json → ReadM (Option (List String))
  | .arr xs => some <$> readTexts p (cur.getD []) (.arr xs)
  | .null => pure none
  | j => do mismatch p (kindName j) "[]string"; pure cur

/-- Reads a time. -/
def readTime (cur : Instant) : Json → ReadM Instant
  | .str s => match Instant.ofRfc3339 s with
    | .ok t => pure t
    | .error e => throw e.text
  | .null => pure cur
  | _ => throw "Time.UnmarshalJSON: input is not a JSON string"

/-- A member key folded for matching: ASCII letters in upper case, and the long s and the
Kelvin sign as the letters they fold to. -/
def foldKey (s : String) : String :=
  String.ofList (s.toList.map fun c =>
    if c.toNat = 0x17F then 'S' else if c.toNat = 0x212A then 'K' else c.toUpper)

/-- The field a member key names: the field of that exact name, else one whose name folds the
same. -/
def matchField (names : List String) (key : String) : Option String :=
  if names.contains key then some key else names.find? fun n => foldKey n = foldKey key

/-- Reads an object into a record by its fields; each field reader gets its place. -/
def readRecord (record type : String) (p : Place) (names : List String)
    (field : String → Place → Json → σ → ReadM σ) (cur : σ) : Json → ReadM σ
  | .obj kvs => kvs.foldlM (fun acc (k, v) =>
      match matchField names k with
      | some n => field n ⟨record, p.path ++ [n]⟩ v acc
      | none => pure acc) cur
  | .null => pure cur
  | j => do mismatch p (kindName j) ("presentation." ++ type); pure cur

/-- Reads an array of records, each item into the one held at its place; `null` is the empty
list. -/
def readRecords (type : String) (p : Place) (read : Place → α → Json → ReadM α) (zero : α)
    (cur : List α) : Json → ReadM (List α)
  | .arr xs => xs.zipIdx.mapM fun (x, i) => read p (cur.getD i zero) x
  | .null => pure []
  | j => do mismatch p (kindName j) ("[]presentation." ++ type); pure cur

/-- Reads an array of records that may be absent; `null` makes it absent. -/
def readListedRecords (type : String) (p : Place) (read : Place → α → Json → ReadM α) (zero : α)
    (cur : Option (List α)) : Json → ReadM (Option (List α))
  | .arr xs => some <$> readRecords type p read zero (cur.getD []) (.arr xs)
  | .null => pure none
  | j => do mismatch p (kindName j) ("[]presentation." ++ type); pure cur

/-- Reads a backend. -/
def readBackend (p : Place) (cur : BackendView) : Json → ReadM BackendView :=
  readRecord "BackendDTO" "BackendDTO" p
    ["name", "display", "parent", "lineage", "description", "default_flow", "writer_flow", "source", "default"]
    (fun n q v b => match n with
      | "name" => return { b with name := ← readText q b.name v }
      | "display" => return { b with display := ← readText q b.display v }
      | "parent" => return { b with parent := ← readText q b.parent v }
      | "lineage" => return { b with lineage := ← readTexts q b.lineage v }
      | "description" => return { b with description := ← readText q b.description v }
      | "default_flow" => return { b with defaultFlow := ← readText q b.defaultFlow v }
      | "writer_flow" => return { b with writerFlow := ← readText q b.writerFlow v }
      | "source" => return { b with source := ← readText q b.source v }
      | _ => return { b with isDefault := ← readBool q b.isDefault v }) cur

/-- Reads a flow. -/
def readFlow (p : Place) (cur : FlowView) : Json → ReadM FlowView :=
  readRecord "FlowDTO" "FlowDTO" p ["name", "backend", "passes", "requires", "aggregate"]
    (fun n q v f => match n with
      | "name" => return { f with name := ← readText q f.name v }
      | "backend" => return { f with backend := ← readText q f.backend v }
      | "passes" => return { f with passes := ← readListed q f.passes v }
      | "requires" => return { f with requires := ← readListed q f.requires v }
      | _ => return { f with aggregate := ← readBool q f.aggregate v }) cur

/-- Reads a contribution. -/
def readContribution (p : Place) (cur : ContributionView) : Json → ReadM ContributionView :=
  readRecord "ContributionDTO" "ContributionDTO" p ["flow", "passes"]
    (fun n q v c => match n with
      | "flow" => return { c with flow := ← readText q c.flow v }
      | _ => return { c with passes := ← readListed q c.passes v }) cur

/-- Reads a plan. -/
def readPlan (p : Place) (cur : PlanView) : Json → ReadM PlanView :=
  readRecord "PlanDTO" "PlanDTO" p ["flow", "passes", "contributions"]
    (fun n q v pl => match n with
      | "flow" => return { pl with flow := ← readText q pl.flow v }
      | "passes" => return { pl with passes := ← readListed q pl.passes v }
      | _ => do
        let cs ← readRecords "ContributionDTO" q readContribution {} pl.contributions v
        return { pl with contributions := cs }) cur

/-- Reads a step. -/
def readStep (p : Place) (cur : StepView) : Json → ReadM StepView :=
  readRecord "StepDTO" "StepDTO" p ["index", "pass", "outcome", "duration_ms", "error"]
    (fun n q v s => match n with
      | "index" => return { s with index := ← readInt q s.index v }
      | "pass" => return { s with pass := ← readText q s.pass v }
      | "outcome" => return { s with outcome := ← readText q s.outcome v }
      | "duration_ms" => return { s with durationMs := ← readFloat q s.durationMs v }
      | _ => return { s with error := ← readText q s.error v }) cur

/-- Reads a failure. -/
def readFailure (p : Place) (cur : FailureView) : Json → ReadM FailureView :=
  readRecord "FailureDTO" "FailureDTO" p ["pass", "index", "error"]
    (fun n q v f => match n with
      | "pass" => return { f with pass := ← readText q f.pass v }
      | "index" => return { f with index := ← readInt q f.index v }
      | _ => return { f with error := ← readText q f.error v }) cur

/-- Reads a report. -/
def readReport (p : Place) (cur : ReportView) : Json → ReadM ReportView :=
  readRecord "ReportDTO" "ReportDTO" p
    ["run_id", "flow", "state", "plan", "steps", "transformed", "skipped", "failure", "started_at",
      "finished_at", "duration_ms"]
    (fun n q v r => match n with
      | "run_id" => return { r with runId := ← readText q r.runId v }
      | "flow" => return { r with flow := ← readText q r.flow v }
      | "state" => return { r with state := ← readText q r.state v }
      | "plan" => return { r with plan := ← readListed q r.plan v }
      | "steps" => return { r with steps := ← readListedRecords "StepDTO" q readStep {} r.steps v }
      | "transformed" => return { r with transformed := ← readInt q r.transformed v }
      | "skipped" => return { r with skipped := ← readTexts q r.skipped v }
      | "failure" => match v with
        | .null => return { r with failure := none }
        | _ => return { r with failure := some (← readFailure q (r.failure.getD {}) v) }
      | "started_at" => return { r with startedAt := ← readTime r.startedAt v }
      | "finished_at" => return { r with finishedAt := ← readTime r.finishedAt v }
      | _ => return { r with durationMs := ← readFloat q r.durationMs v }) cur

/-- Reads a missing pass. -/
def readMissing (p : Place) (cur : MissingView) : Json → ReadM MissingView :=
  readRecord "MissingPassDTO" "MissingPassDTO" p ["flow", "pass"]
    (fun n q v m => match n with
      | "flow" => return { m with flow := ← readText q m.flow v }
      | _ => return { m with pass := ← readText q m.pass v }) cur

/-- Reads a difference. -/
def readDiff (p : Place) (cur : DiffView) : Json → ReadM DiffView :=
  readRecord "DiffDTO" "DiffDTO" p ["a", "b", "a_requires", "b_requires", "a_plan", "b_plan"]
    (fun n q v d => match n with
      | "a" => return { d with a := ← readText q d.a v }
      | "b" => return { d with b := ← readText q d.b v }
      | "a_requires" => return { d with aRequires := ← readListed q d.aRequires v }
      | "b_requires" => return { d with bRequires := ← readListed q d.bRequires v }
      | "a_plan" => return { d with aPlan := ← readListed q d.aPlan v }
      | _ => return { d with bPlan := ← readListed q d.bPlan v }) cur

/-- Runs a reader from the zero record: the record, or the first type error, or the failure
that stopped reading. -/
def readWith (read : Place → α → Json → ReadM α) (zero : α) (j : Json) : Except String α :=
  match (read {} zero j).run none with
  | .error e => .error e
  | .ok (_, some e) => .error e
  | .ok (a, none) => .ok a

/-- Reads a list of records of a type. -/
def readList (type : String) (read : Place → α → Json → ReadM α) (zero : α) (j : Json) :
    Except String (List α) :=
  readWith (fun p cur j => readRecords type p read zero cur j) [] j

end PassPlan.Present
