import PassPlan.Workspace.Tree
import PassPlan.Model.File
import PassPlan.Pipeline.Read
/-!
Models and pipeline files kept in a file tree. A file that cannot be opened fails with the
system's reason; a directory opens but cannot be read, which the YAML reader reports as an input
error. A directory of pipeline files holds the files at its top whose names end in `.yaml` or
`.yml`, in name order, skipping hidden names and directories; links count as files.
-/
namespace PassPlan.Workspace

/-- Why loading from the tree failed. -/
inductive LoadError where
  /-- A file could not be opened; `what` names what it was to hold. -/
  | cannotOpen (what : String) (e : PathError)
  /-- A directory of pipeline files could not be listed. -/
  | unreadableDir (e : PathError)
  /-- A model file was refused, with its path. -/
  | model (path : String) (e : Model.LoadError)
  /-- A pipeline file was refused. -/
  | pipeline (e : Pipeline.FileError)
  /-- A failure inside a directory, with the directory's path. -/
  | within (dir : String) (e : LoadError)
deriving Repr

/-- The message of a load failure. -/
def LoadError.message : LoadError → String
  | .cannotOpen what e => "open " ++ what ++ ": " ++ e.text
  | .unreadableDir e => "read pipelines: " ++ e.text
  | .model p e => p ++ ": " ++ e.message
  | .pipeline e => e.message
  | .within d e => d ++ ": " ++ e.message

/-- The text of a file to be read as YAML: none when it cannot be opened, and the reader's
input error when it is a directory. -/
def Tree.yamlInput (t : Tree) (p : String) : Except PathError (Except String String) :=
  match t.readText p with
  | .ok s => .ok (.ok s)
  | .error e => if e.op = "read" then .ok (.error ("yaml: input error: " ++ e.text)) else .error e

/-- Loads a model file. -/
def Tree.loadModel (t : Tree) (p : String) : Except LoadError Graph := do
  match ← (t.yamlInput p).mapError (.cannotOpen "model") with
  | .error m => throw (.model p (.yaml m))
  | .ok text => (Model.load text).mapError (.model p)

/-- Writes a model file. -/
def Tree.writeModel (t : Tree) (p : String) (g : Graph) : Except PathError Tree :=
  t.writeText p (Model.dump g)

/-- Loads a pipeline file, naming it by a source. -/
def Tree.loadPipelineAs (t : Tree) (p source : String) : Except LoadError Pipeline.PipelineFile := do
  match ← (t.yamlInput p).mapError (.cannotOpen "pipeline file") with
  | .error m => throw (.pipeline ⟨source, "", .yaml m⟩)
  | .ok text => (Pipeline.parse text source).mapError .pipeline

/-- Loads a pipeline file. -/
def Tree.loadPipeline (t : Tree) (p : String) : Except LoadError Pipeline.PipelineFile :=
  t.loadPipelineAs p p

/-- The entries of a directory, failing as listing it would. The failure names the directory
as itself. -/
def Tree.readDir (t : Tree) (d : String) : Except PathError (List (String × Node)) :=
  match t.entry true d with
  | .error e => .error ⟨"open", ".", e⟩
  | .ok .dir => .ok (t.entries d)
  | .ok _ => .error ⟨"open", ".", .notdir⟩

/-- Loads the pipeline files of a directory, each named by its path under the directory. -/
def Tree.loadPipelineDir (t : Tree) (d : String) : Except LoadError (List Pipeline.PipelineFile) := do
  let entries ← (t.readDir d).mapError fun e => .within d (.unreadableDir e)
  let names := entries.filterMap fun (name, n) =>
    match n with
    | .dir => none
    | _ => if Pipeline.isPipelineName name then some name else none
  names.mapM fun name => do
    let f ← match t.yamlInput (Path.join [d, name]) with
      | .error e => throw (.within d (.cannotOpen "pipeline file" { e with path := name }))
      | .ok (.error m) => throw (.within d (.pipeline ⟨name, "", .yaml m⟩))
      | .ok (.ok text) => (Pipeline.parse text name).mapError fun e => .within d (.pipeline e)
    pure { f with source := Path.join [d, name] }

/-- Whether a directory holds an entry whose name ends in `.yaml`. -/
def Tree.hasYaml (t : Tree) (d : String) : Bool :=
  t.isDir d && (t.entries d).any fun (name, _) => name.endsWith ".yaml"

/-- The directory of pipeline files a path names: the path itself when it holds YAML files,
else the pipelines directory of the project directory it is or is in; anything else cleaned. -/
def Tree.pipelinesDir (t : Tree) (p : String) : String :=
  if p = "" then ""
  else
    let p := Path.clean p
    if t.hasYaml p then p
    else if Path.base p = ".passflow" then
      let nested := Path.join [p, "pipelines"]
      if t.isDir nested then nested else p
    else
      let nested := Path.join [p, ".passflow", "pipelines"]
      if t.isDir nested then nested else p

end PassPlan.Workspace
