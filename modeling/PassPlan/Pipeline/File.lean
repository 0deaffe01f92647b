import PassPlan.Backend.Registry
import PassPlan.Pass.Kinds
import PassPlan.Yaml.Decode
/-!
Pipeline files: what one YAML file declares. A file may name a backend (with its parent,
description and default and writer flows) or be global; it declares passes by kind and
parameters, and flows by their own passes, by the registered passes with a prefix, by
requirements, or by deriving from another flow with insertions. Checking a file finds the
first declaration that cannot be right whatever else is registered.
-/
namespace PassPlan.Pipeline

/-- A pass declaration. -/
structure PassSpec where
  name : String := ""
  kind : String := ""
  params : Pass.Params := []
deriving Repr, Inhabited

/-- An insertion of a derived flow: a prerequisite flow before or after an anchor. -/
structure InsertSpec where
  before : String := ""
  after : String := ""
  flow : String := ""
deriving Repr, Inhabited

/-- A flow declaration. -/
structure FlowSpec where
  name : String := ""
  passes : List String := []
  passesFrom : String := ""
  requires : List String := []
  deriveFrom : String := ""
  insert : List InsertSpec := []
  aggregate : Bool := false
deriving Repr, Inhabited

/-- A pipeline file. -/
structure PipelineFile where
  source : String := ""
  backend : String := ""
  parent : String := ""
  description : String := ""
  defaultFlow : String := ""
  writerFlow : String := ""
  passes : List PassSpec := []
  flows : List FlowSpec := []
deriving Repr, Inhabited

/-- Whether a file declares no backend. -/
def PipelineFile.isGlobal (f : PipelineFile) : Bool := Text.trim f.backend = ""

/-- What is wrong with a pipeline file. -/
inductive FileProblem where
  /-- The file holds no document. -/
  | empty
  /-- The text is not YAML, or decoding stopped at a fault. -/
  | yaml (message : String)
  /-- Parts of the document do not fit the file's shape. -/
  | typeErrors (lines : List String)
  /-- A declaration that cannot be right, by its message. -/
  | invalid (message : String)
  /-- The backend name holds a colon. -/
  | invalidBackend (name : String)
  /-- The backend could not be registered. -/
  | backend (e : Backend.BackendError)
  /-- A pass could not be built. -/
  | build (e : Pass.BuildError)
  /-- A pass could not be registered. -/
  | register (e : Pass.RegisterError)
  /-- A flow could not be registered, derived or found. -/
  | flow (e : Flow.Error)
  /-- A prefix that no registered pass has. -/
  | noPassesFrom (pfx : String)
deriving Repr

/-- The message of a file problem. -/
def FileProblem.message : FileProblem → String
  | .empty => "empty pipeline file"
  | .yaml m => m
  | .typeErrors ls => Yaml.typeErrorMessage ls
  | .invalid m => m
  | .invalidBackend n => "invalid backend: " ++ Text.quote n
  | .backend e => e.message
  | .build e => e.message
  | .register e => e.message
  | .flow e => e.message
  | .noPassesFrom p => "passes_from " ++ Text.quote p ++ " matches no registered pass"

/-- A problem of a file, at a field when one is to blame. -/
structure FileError where
  source : String
  field : String := ""
  problem : FileProblem
deriving Repr

/-- The message of a file failure. -/
def FileError.message (e : FileError) : String :=
  if e.field = "" then e.source ++ ": " ++ e.problem.message
  else e.source ++ ": " ++ e.field ++ ": " ++ e.problem.message

/-- The field name of an entry of a list. -/
def entryField (list : String) (i : Nat) : String := list ++ "[" ++ toString i ++ "]"

/-- The first problem of the insertions of a derived flow. -/
def checkInserts (field : String) : List (InsertSpec × Nat) → Except (String × String) Unit
  | [] => .ok ()
  | (ins, j) :: rest =>
    let f := field ++ ".insert[" ++ toString j ++ "]"
    if (ins.before = "") = (ins.after = "") then .error (f, "exactly one of before and after is required")
    else if ins.flow = "" then .error (f, "flow is required")
    else checkInserts field rest

/-- The first problem of a flow declaration. -/
def checkFlow (field : String) (fl : FlowSpec) : Except (String × String) Unit :=
  let msg (s : String) : Except (String × String) Unit := .error (field, "flow " ++ fl.name ++ ": " ++ s)
  if fl.passesFrom ≠ "" && !fl.passes.isEmpty then msg "passes and passes_from are exclusive"
  else if fl.deriveFrom = "" then
    if !fl.insert.isEmpty then msg "insert needs derive_from"
    else if fl.aggregate then msg "aggregate needs derive_from"
    else .ok ()
  else if !fl.requires.isEmpty then msg "requires and derive_from are exclusive"
  else if fl.aggregate && (!fl.passes.isEmpty || fl.passesFrom ≠ "") then msg "aggregate flows take no passes"
  else checkInserts field fl.insert.zipIdx

/-- The first problem of the pass declarations, given the names declared before. -/
def checkPasses (seen : List String) : List (PassSpec × Nat) → Except (String × String) Unit
  | [] => .ok ()
  | (p, i) :: rest =>
    let field := entryField "passes" i
    if Text.trim p.name = "" then .error (field, "name is required")
    else if Text.trim p.kind = "" then .error (field, "kind is required for " ++ p.name)
    else if seen.contains p.name then .error (field, "pass " ++ p.name ++ " declared twice")
    else checkPasses (p.name :: seen) rest

/-- The first problem of the flow declarations, given the names declared before. -/
def checkFlows (seen : List String) : List (FlowSpec × Nat) → Except (String × String) Unit
  | [] => .ok ()
  | (fl, i) :: rest =>
    let field := entryField "flows" i
    if Text.trim fl.name = "" then .error (field, "name is required")
    else if seen.contains fl.name then .error (field, "flow " ++ fl.name ++ " declared twice")
    else do
      checkFlow field fl
      checkFlows (fl.name :: seen) rest

/-- Checks a file on its own. -/
def PipelineFile.validate (f : PipelineFile) : Except FileError Unit :=
  if f.backend.toList.contains ':' then .error ⟨f.source, "backend", .invalidBackend f.backend⟩
  else if f.isGlobal && (f.parent ≠ "" || f.defaultFlow ≠ "" || f.writerFlow ≠ "") then
    .error ⟨f.source, "", .invalid "parent, default_flow and writer_flow need a backend"⟩
  else
    (do checkPasses [] f.passes.zipIdx; checkFlows [] f.flows.zipIdx).mapError
      fun (field, m) => ⟨f.source, field, .invalid m⟩

end PassPlan.Pipeline
