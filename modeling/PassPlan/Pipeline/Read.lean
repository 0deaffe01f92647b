import PassPlan.Pipeline.File
/-!
Reading pipeline files from YAML: the first document is decoded with unknown fields refused,
then checked. A text without a document is an empty file. Reading a directory takes the files
at its top whose extension is `.yaml` or `.yml` in any case, skipping hidden ones, in name
order, and stops at the first that fails.
-/
namespace PassPlan.Pipeline

open Yaml in
/-- The shape of an insertion. -/
def insertShape : Shape :=
  .record "backend.InsertSpec" [("before", .text), ("after", .text), ("flow", .text)]

open Yaml in
/-- The shape of a flow declaration. -/
def flowShape : Shape :=
  .record "backend.FlowSpec" [("name", .text), ("passes", .list .text), ("passes_from", .text),
    ("requires", .list .text), ("derive_from", .text), ("insert", .list insertShape),
    ("aggregate", .flag)]

open Yaml in
/-- The shape of a pass declaration. -/
def passShape : Shape := .record "backend.PassSpec" [("name", .text), ("kind", .text), ("with", .dict)]

open Yaml in
/-- The shape of a pipeline file. -/
def fileShape : Shape :=
  .record "backend.File" [("backend", .text), ("parent", .text), ("description", .text),
    ("default_flow", .text), ("writer_flow", .text), ("passes", .list passShape),
    ("flows", .list flowShape)]

/-- A member of a decoded record. -/
def member (v : Value) (k : String) : Value :=
  match v with
  | .dict kvs => (kvs.lookup k).getD .null
  | _ => .null

/-- A text member. -/
def textOf (v : Value) (k : String) : String :=
  match member v k with
  | .str s => s
  | _ => ""

/-- A list member. -/
def listOf (v : Value) (k : String) : List Value :=
  match member v k with
  | .list xs => xs
  | _ => []

/-- A list of texts member. -/
def textsOf (v : Value) (k : String) : List String :=
  (listOf v k).filterMap fun
    | .str s => some s
    | _ => none

/-- The pipeline file of a decoded document. -/
def ofValue (source : String) (v : Value) : PipelineFile :=
  let passOf (p : Value) : PassSpec :=
    ⟨textOf p "name", textOf p "kind", match member p "with" with
      | .dict a => a
      | _ => []⟩
  let insertOf (i : Value) : InsertSpec := ⟨textOf i "before", textOf i "after", textOf i "flow"⟩
  let flowOf (f : Value) : FlowSpec :=
    ⟨textOf f "name", textsOf f "passes", textOf f "passes_from", textsOf f "requires",
      textOf f "derive_from", (listOf f "insert").map insertOf,
      match member f "aggregate" with
      | .bool b => b
      | _ => false⟩
  { source, backend := textOf v "backend", parent := textOf v "parent",
    description := textOf v "description", defaultFlow := textOf v "default_flow",
    writerFlow := textOf v "writer_flow", passes := (listOf v "passes").map passOf,
    flows := (listOf v "flows").map flowOf }

/-- Reads and checks a pipeline file. -/
def parse (text source : String) : Except FileError PipelineFile := do
  let doc ← match Yaml.firstDocument Yaml.plainTag text with
    | .error e => throw ⟨source, "", .yaml e.message⟩
    | .ok none => throw ⟨source, "", .empty⟩
    | .ok (some doc) => pure doc
  let v ← match Yaml.decodeTree fileShape doc (2 * text.length + 16) with
    | .fault m => throw ⟨source, "", .yaml m⟩
    | .typeErrors ls => throw ⟨source, "", .typeErrors ls⟩
    | .value v => pure v
  let f := ofValue source v
  f.validate
  pure f

/-- An entry of a directory: a file with its text, or a directory. -/
inductive Entry where
  | file (text : String)
  | dir

/-- The extension of a file name, from its last dot. -/
def extension (name : String) : String :=
  match (name.splitOn ".").reverse with
  | ext :: _ :: _ => "." ++ ext
  | _ => ""

/-- Whether an entry at the top of a directory is a pipeline file. -/
def isPipelineName (name : String) : Bool :=
  !name.startsWith "." && (Text.lower (extension name) = ".yaml" || Text.lower (extension name) = ".yml")

/-- Reads the pipeline files at the top of a directory given by its paths and entries. -/
def loadAll (entries : List (String × Entry)) : Except FileError (List PipelineFile) :=
  let top := entries.filterMap fun (path, e) =>
    match e with
    | .file text => if path.toList.contains '/' then none else some (path, text)
    | .dir => none
  let chosen := (top.filter fun (name, _) => isPipelineName name).mergeSort fun a b => decide (a.1 ≤ b.1)
  chosen.mapM fun (name, text) => parse text name

end PassPlan.Pipeline
