import PassPlan.Pipeline.Read
import PassPlan.Flow.Derive
/-!
Bringing up an environment from pipeline files: every backend file registers its backend,
then the files are taken global ones first and backends parents first; each registers its
passes in the catalog and its flows in the registry, in the order written. Default and writer
flows must then exist, and the flow registry is frozen. The first failure stops bring-up.
-/
namespace PassPlan.Backend

open PassPlan.Pipeline

/-- What bring-up produces: the backends, the flows, the passes, and the files in the order
they were taken. -/
structure Environment where
  backends : Registry := {}
  flows : Flow.Registry := {}
  catalog : Pass.Catalog := {}
  files : List PipelineFile := []

/-- Why bring-up fails. -/
inductive BringUpError where
  /-- A file failed. -/
  | file (e : FileError)
  /-- The backends' parents do not form a forest. -/
  | backends (e : BackendError)
deriving Repr

/-- The message of a bring-up failure. -/
def BringUpError.message : BringUpError → String
  | .file e => e.message
  | .backends e => e.message

/-- A flow name written in a backend's file: a name with a colon, or any name in a global
file, is read as written; otherwise it is a flow of the backend. -/
def qualifyFlow (ns s : String) : Except Flow.Error Flow.Name :=
  if ns = "" || s.toList.contains ':' then (Flow.Name.parse s).mapError .invalidName
  else
    let n := Flow.Name.qualified ns s
    (n.validate.map fun _ => n).mapError fun p => .invalidName ⟨p, none⟩

/-- The backend a file describes. -/
def describe (f : PipelineFile) : Except FileError Backend := do
  let ns := Flow.normalizeBackend f.backend
  let flowAt (field s : String) : Except FileError Flow.Name :=
    if s = "" then pure Flow.Name.zero
    else (qualifyFlow ns s).mapError fun e => ⟨f.source, field, .flow e⟩
  pure { name := f.backend, display := Text.trim f.backend, parent := f.parent,
         description := f.description, defaultFlow := ← flowAt "default_flow" f.defaultFlow,
         writerFlow := ← flowAt "writer_flow" f.writerFlow, source := f.source }

/-- Registers the passes a file declares. -/
def registerPasses (kinds : Pass.Kinds) (f : PipelineFile) (c : Pass.Catalog) :
    Except FileError Pass.Catalog :=
  f.passes.zipIdx.foldlM (fun c (spec, i) => do
    let field := entryField "passes" i
    let p ← (kinds.build spec.name spec.kind spec.params).mapError fun e => ⟨f.source, field, .build e⟩
    (c.register p).mapError fun e => ⟨f.source, field, .register e⟩) c

/-- The insertion a declaration stands for. -/
def insertionOf (ins : InsertSpec) : Except Flow.Error Flow.Insertion := do
  let parse (s : String) := (Flow.Name.parse s).mapError Flow.Error.invalidName
  let prereq ← parse ins.flow
  if ins.before ≠ "" then pure ⟨← parse ins.before, prereq, .before⟩
  else pure ⟨← parse ins.after, prereq, .after⟩

/-- Registers one flow of a file. -/
def registerFlow (env : Environment) (ns : String) (spec : FlowSpec) :
    Except FileProblem (Flow.Definition × Flow.Registry) := do
  let passes ←
    if spec.passesFrom = "" then pure spec.passes
    else
      let ps := env.catalog.withPrefix spec.passesFrom
      if ps.isEmpty then throw (.noPassesFrom spec.passesFrom) else pure ps
  if spec.deriveFrom = "" then
    let requires ← ((Flow.Name.parseAll spec.requires).mapError Flow.Error.invalidName).mapError .flow
    (env.flows.register spec.name passes requires ns).mapError .flow
  else
    (do
      let base ← (Flow.Name.parse spec.deriveFrom).mapError Flow.Error.invalidName
      let target ← qualifyFlow ns spec.name
      let insertions ← spec.insert.mapM insertionOf
      let chosen := if spec.aggregate then some [] else if passes.isEmpty then none else some passes
      env.flows.derive base target insertions chosen).mapError .flow

/-- Registers the flows a file declares in order: the environment after the last flow that
registered, and the failure that stopped it. -/
def registerFlowsUpTo (f : PipelineFile) (env : Environment) : Environment × Option FileError :=
  go f.flows.zipIdx env
where
  /-- Registers the remaining flows. -/
  go : List (FlowSpec × Nat) → Environment → Environment × Option FileError
    | [], env => (env, none)
    | (spec, i) :: rest, env =>
      match registerFlow env (Flow.normalizeBackend f.backend) spec with
      | .ok (_, flows) => go rest { env with flows }
      | .error p => (env, some ⟨f.source, entryField "flows" i, p⟩)

/-- Registers the flows a file declares. -/
def registerFlows (f : PipelineFile) (env : Environment) : Except FileError Environment :=
  match registerFlowsUpTo f env with
  | (env, none) => .ok env
  | (_, some e) => .error e

/-- Registers the passes and then the flows of files in turn: the environment reached, and the
failure that stopped it. -/
def registerAll (kinds : Pass.Kinds) : List PipelineFile → Environment → Environment × Option FileError
  | [], env => (env, none)
  | f :: rest, env =>
    match registerPasses kinds f env.catalog with
    | .error e => (env, some e)
    | .ok catalog =>
      match registerFlowsUpTo f { env with catalog } with
      | (env, some e) => (env, some e)
      | (env, none) => registerAll kinds rest env

/-- Checks that a backend's default and writer flows are registered. -/
def checkFlows (env : Environment) (b : Backend) (f : PipelineFile) : Except FileError Unit := do
  for (field, n) in [("default_flow", b.defaultFlow), ("writer_flow", b.writerFlow)] do
    if !n.isZero && !env.flows.has n then
      throw ⟨f.source, field, .flow (.notFound n Flow.Name.zero)⟩

/-- Checks the default and writer flows of backends in order: the backends that passed before
the first that failed, and its failure. -/
def readyBackends (env : Environment) (fileOf : Backend → PipelineFile) :
    List Backend → List Backend × Option FileError
  | [] => ([], none)
  | b :: rest =>
    match checkFlows env b (fileOf b) with
    | .error e => ([], some e)
    | .ok () => let (ready, e) := readyBackends env fileOf rest; (b :: ready, e)

/-- How far bring-up got: the flows registered, in order, and the backends made ready. -/
structure Progress where
  registered : List Flow.Definition := []
  ready : List Backend := []

/-- The backends of the backend files, registered, and put parents first. -/
def orderBackends (files : List PipelineFile) :
    Except BringUpError (Registry × List Backend × (Backend → PipelineFile)) := do
  let (reg, byBackend) ← (files.filter (!·.isGlobal)).foldlM (fun (reg, m) f => do
    let b ← (describe f).mapError .file
    let reg ← (reg.register b).mapError fun e => .file ⟨f.source, "backend", .backend e⟩
    pure (reg, m ++ [(Flow.normalizeBackend f.backend, f)])) (({} : Registry), ([] : List (String × PipelineFile)))
  let ordered ← (parentOrder reg.all).mapError .backends
  pure (reg, ordered, fun b => (byBackend.lookup b.name).getD {})

/-- Brings up an environment from pipeline files with the given pass kinds, telling how far it
got: the global files are taken first, then the backends' files parents first. -/
def bringUpWith (kinds : Pass.Kinds) (files : List PipelineFile) : Progress × Except BringUpError Environment :=
  match orderBackends files with
  | .error e => ({}, .error e)
  | .ok (reg, ordered, fileOf) =>
    let taken := files.filter (·.isGlobal) ++ ordered.map fileOf
    match registerAll kinds taken { backends := reg, files := taken } with
    | (env, some e) => ({ registered := env.flows.defs }, .error (.file e))
    | (env, none) =>
      match readyBackends env fileOf ordered with
      | (ready, some e) => (⟨env.flows.defs, ready⟩, .error (.file e))
      | (ready, none) => (⟨env.flows.defs, ready⟩, .ok { env with flows := env.flows.freeze })

/-- Brings up an environment from pipeline files with the given pass kinds, telling which
backends were made ready on the way. -/
def bringUpReady (kinds : Pass.Kinds) (files : List PipelineFile) :
    List Backend × Except BringUpError Environment :=
  let (p, r) := bringUpWith kinds files
  (p.ready, r)

/-- Brings up an environment from pipeline files with the given pass kinds. -/
def bringUp (kinds : Pass.Kinds) (files : List PipelineFile) : Except BringUpError Environment :=
  (bringUpReady kinds files).2

end PassPlan.Backend
