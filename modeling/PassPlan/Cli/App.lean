import PassPlan.Cli.Shell
import PassPlan.Workspace.Files
import PassPlan.Pipeline.Defaults
import PassPlan.Trace.Instrument
import PassPlan.Value.Duration
/-!
The application behind a command: opening it checks the settings, starts tracing, opens the
run history and loads the pipelines; closing it writes the history back and the ended spans
out. Loading can be repeated: a failure leaves the service that was loaded before.

The service's work is done here as the program reports it: resolving a flow opens a
`flow.resolve` span and logs each plan found in the memo, a failure is logged, and a compile
logs the execution pass by pass and records the run in the history.
-/
namespace PassPlan.Cli

open Workspace (Tree)
open Backend (Service)

/-- Fails with a message when a run failed. -/
def unwrap (r : Except Flow.Error α) : Cmd α := orFail r Flow.Error.message

/-- Whether an opt-in flag is on; a flag that is not set is logged as unknown. -/
def flagEnabled (name : String) : Cmd Bool := do
  let a ← app
  match a.flags.values.lookup name with
  | some b => pure b
  | none => log .debug "config" "unknown flag" [.str "flag", .str name]; pure false

/-- Logs the plans found in the memo. -/
def logHits (hits : List String) : Cmd Unit :=
  for h in hits do log .debug "cache" "cache hit" [.str "cache", .str "plans", .str "key", .str h]

/-- Resolves a flow into its plan under a `flow.resolve` span, logging the memo hits and a
failure. -/
def resolvePlan (n : Flow.Name) (parent : Option Trace.Span := none) : Cmd (Except Flow.Error Flow.Plan) := do
  let s ← service
  let span ← traced (·.start "flow.resolve" parent [⟨"flow.name", .str n.text⟩, ⟨"flow.backend", .str n.backend⟩])
  let cached := (s.resolver.memo.get? n.text).isSome
  let span := if cached then span.addEvent "plan.cached" else span
  if cached then logHits [n.text]
  let (resolver, r, hits) := s.resolver.resolveTold s.env.flows.source n
  setService { s with resolver }
  logHits hits
  match r with
  | .ok p =>
    traced fun t => (t.conclude (span.setAttrs [⟨"plan.size", .int p.passes.length⟩]) none, ())
    pure (.ok p)
  | .error e =>
    logError "flow" "resolve failed" e.message [.str "flow", .str n.text]
    traced fun t => (t.conclude span (some (Trace.flowFailure e)), ())
    pure (.error e)

/-- Attributes each pass of a flow's plan to the flow that placed it, through the cache. -/
def explainPlan (n : Flow.Name) : Cmd (Except Flow.Error (List Flow.Contribution)) := do
  let s ← service
  match s.explained.get? n.text with
  | some cs =>
    log .debug "cache" "cache hit" [.str "cache", .str "explain", .str "key", .str n.text]
    pure (.ok cs)
  | none =>
    let (resolver, r, hits) := s.resolver.explainTold s.env.flows.source n
    logHits hits
    match r with
    | .ok cs => setService { s with resolver, explained := s.explained.set n.text cs }; pure (.ok cs)
    | .error e => setService { s with resolver }; pure (.error e)

/-- Resolves every flow in registration order and lists the plan entries the catalog cannot
supply, by flow name; the first flow that does not resolve is the answer instead. -/
def checkPlans : Cmd (Except Flow.Error (List Backend.MissingPass)) := do
  let s ← service
  let mut missing : List Backend.MissingPass := []
  for d in s.env.flows.defs do
    match ← resolvePlan d.name with
    | .error e => return .error e
    | .ok p =>
      let s ← service
      missing := missing ++ (p.passes.filter fun x => !s.env.catalog.has x).map fun x => ⟨d.name, x⟩
  pure (.ok (missing.mergeSort fun x y => decide (x.flow.text ≤ y.flow.text)))

/-- The requirements and plans of two flows; the first side that is missing or does not
resolve is the answer instead. -/
def diffPlans (a b : Flow.Name) : Cmd (Except Flow.Error Backend.RequirementDiff) := do
  let side (n : Flow.Name) : Cmd (Except Flow.Error (List Flow.Name × List String)) := do
    match (← service).env.flows.get n with
    | .error e => pure (.error e)
    | .ok d =>
      match ← resolvePlan n with
      | .error e => pure (.error e)
      | .ok p => pure (.ok (d.requires, p.passes))
  match ← side a with
  | .error e => pure (.error e)
  | .ok (ar, ap) =>
    match ← side b with
    | .error e => pure (.error e)
    | .ok (br, bp) => pure (.ok ⟨a, b, ar, br, ap, bp⟩)

/-- The row id a run was stored under. -/
def rowOf (db : Sql.Database) (runId : String) : Int :=
  match db.exec "SELECT id FROM runs WHERE run_id = ?" [.text runId] with
  | .ok o => match o.rows with
    | (Sql.Value.int i :: _) :: _ => i
    | _ => 0
  | .error _ => 0

/-- Records a report in the history when one is kept, then prunes it to the kept count; a
failure of either is logged and leaves the history as it stood. -/
def record (r : Run.Report) : Cmd Unit := do
  let s ← service
  match s.history with
  | none => pure ()
  | some (db, keep) =>
    match History.save db r with
    | .error e => logError "db" "failed to record run" e.text [.str "run", .str r.runId]
    | .ok db =>
      log .debug "db" "saved run" [.str "runID", .str r.runId, .str "row", .int (rowOf db r.runId),
        .str "steps", .int r.steps.length]
      setService { s with history := some (db, keep) }
      if keep > 0 then
        match History.prune db keep with
        | .error e => logError "db" "failed to prune history" e.text [.str "keep", .int keep]
        | .ok (db, removed) =>
          if removed > 0 then
            log .info "db" "pruned run history" [.str "removed", .int removed, .str "kept", .int keep]
          setService { s with history := some (db, keep) }

/-- Logs an execution as the executor reports it: the plan, each pass's own lines and its end,
and how the run ended. -/
def logExecution (out : Run.Execution) : Cmd Unit := do
  let r := out.report
  log .info "pass" "executing plan" [.str "run", .str r.runId, .str "flow", .str r.flow.text,
    .str "passes", .int r.plan.length]
  for ev in out.events do
    for n in ev.notes do log .debug "pass" n.message (n.fields.flatMap fun (k, v) => [.str k, v])
    if ev.kind = .finished then
      log .debug "pass" "pass finished" [.str "run", .str r.runId, .str "pass", .str ev.step.pass,
        .str "outcome", .str ev.step.outcome.name, .str "duration", .str (Duration.text ev.step.duration)]
  match r.failure with
  | some f =>
    logError "pass" "plan aborted" f.error.text [.str "run", .str r.runId, .str "flow", .str r.flow.text,
      .str "pass", .str f.pass, .str "index", .int f.index]
  | none =>
    log .info "pass" "plan completed" [.str "run", .str r.runId, .str "flow", .str r.flow.text,
      .str "transformed", .int r.transformed, .str "duration", .str (Duration.text r.duration)]

/-- Resolves a flow and runs its plan over a model under a `backend.compile` span, recording
the run; a flow that does not resolve gives no report. -/
def compileFlow (n : Flow.Name) (g : Graph) : Cmd (Except Flow.Error Backend.Compiled) := do
  let span ← traced (·.start "backend.compile" none [⟨"flow.name", .str n.text⟩])
  match ← resolvePlan n (some span) with
  | .error e =>
    traced fun t => (t.conclude span (some (Trace.flowFailure e)), ())
    pure (.error e)
  | .ok p =>
    let s ← service
    let (executor, out) := s.executor.executeAs (s.runIds s.executor.nextRun) p g s.env.catalog.lookup
    setService { s with executor }
    logExecution out
    traced fun t => (Trace.executionSpans t span out.report, ())
    record out.report
    let r := out.report
    let failure := r.failure.map fun f => (⟨"*pipeline.PassExecutionError", f.text⟩ : Trace.Failure)
    traced fun t =>
      (t.conclude (span.setAttrs [⟨"run.id", .str r.runId⟩, ⟨"run.state", .str r.state.name⟩]) failure, ())
    pure (.ok ⟨out.report, out.model, out.events⟩)

/-- Keeps the newest recorded runs and tells how many were removed. -/
def pruneRuns (keep : Int) : Cmd Nat := do
  let s ← service
  match s.history with
  | none => throw (Backend.ServiceError.historyDisabled).message
  | some (db, k) =>
    match History.prune db keep with
    | .error e => throw e.text
    | .ok (db, removed) =>
      if removed > 0 then
        log .info "db" "pruned run history" [.str "removed", .int removed, .str "kept", .int keep]
      setService { s with history := some (db, k) }
      log .info "db" "pruned history" [.str "removed", .int removed, .str "keep", .int keep]
      pure removed

/-- The text of an error that rejects pipelines naming passes no kind registers. -/
def unregisteredText (missing : List Backend.MissingPass) : String :=
  match missing with
  | [] => ""
  | [m] => "flow " ++ m.flow.text ++ " uses unregistered pass " ++ Text.quote m.pass
  | m :: rest =>
    "flow " ++ m.flow.text ++ " uses unregistered pass " ++ Text.quote m.pass ++ " (and " ++
      toString rest.length ++ " more)"

/-- Loads the pipeline files, brings the backends up and puts a new service in place; with the
strict flag on, a flow that names an unregistered pass rejects the pipelines. A failure leaves
the service that was in place. -/
def reload : Cmd Unit := do
  let sh ← get
  let a ← app
  let dir := a.settings.pipelinesDir
  let files ← if dir ≠ "" then orFail (sh.tree.loadPipelineDir dir) fun e => "loading pipelines: " ++ e.message
    else orFail Pipeline.embedded fun e => "loading pipelines: " ++ e.message
  log .debug "backend" "loaded pipeline files" [.str "count", .int files.length]
  let (progress, r) ← traced fun t =>
    let (t, p, r) := Trace.tracedBringUpWith t Pass.Kinds.builtin files
    (t, (p, r))
  for d in progress.registered do
    log .debug "flow" "registered flow" [.str "flow", .str d.name.text, .str "passes", .int d.passes.length,
      .str "requires", .str (", ".intercalate (d.requires.map Flow.Name.text))]
  for b in progress.ready do
    log .info "backend" "backend ready" [.str "backend", .str b.display, .str "parent", .str b.parent,
      .str "default", .str b.defaultFlow.text]
  let env ← orFail r fun e => "bringing up backends: " ++ e.message
  let wanted := a.settings.defaultBackend
  let defaultBackend ←
    if wanted = "" then pure ""
    else if env.backends.has wanted then pure wanted
    else
      log .warn "config" "default backend not registered" [.str "backend", .str wanted,
        .str "available", .list (env.backends.available.map Value.str)]
      pure ""
  let history := match a.service.history with
    | some h => some h
    | none => a.connection.map fun c => (c.db, a.settings.history.keep)
  let base : Service := Service.new env { clock := sh.clock } defaultBackend
  let fresh : Service := { base with history, runIds := fun _ => Run.streamId sh.run }
  let old := a.service
  setService fresh
  if ← flagEnabled Config.strictPipelines then
    match ← checkPlans with
    | .error e => setService old; throw ("checking pipelines: " ++ e.message)
    | .ok [] => pure ()
    | .ok missing => setService old; throw (unregisteredText missing)
  log .info "backend" "pipelines loaded" [.str "files", .int files.length,
    .str "backends", .int env.backends.available.length, .str "flows", .int env.flows.size]

/-- Closes the application: the history is written back to its file, its side files go, and
the ended spans are written out. -/
def closeApp : Cmd Unit := do
  let sh ← get
  match sh.app with
  | none => pure ()
  | some a =>
    let t := match a.connection with
      | some c =>
        let db := match a.service.history with
          | some (db, _) => db
          | none => c.db
        History.Connection.close sh.tree { c with db }
      | none => sh.tree
    let provider : Trace.Provider := { enabled := true, tracer := sh.tracer, exporter := a.exporter }
    let (t, _) := Trace.Provider.shutdown t provider sh.clock
    set { sh with tree := t, app := none }

/-- Runs a step, closing the application when it fails. -/
def closingOnFailure (step : Cmd α) : Cmd α :=
  tryCatch step fun e => do closeApp; throw e

/-- Opens the application: checks the settings, starts tracing, reads the opt-in flags, opens
the run history when it is kept, and loads the pipelines. -/
def openApp : Cmd Unit := do
  let sh ← get
  let cfg := sh.settings
  if let some p := Config.Settings.problem sh.tree cfg then throw ("invalid configuration: " ++ p)
  let (t, provider) ← orFail (Trace.Provider.start sh.tree cfg.tracing) fun e => "starting tracing: " ++ e
  -- each run numbers its spans from a block of its own, so ids stay unique in a shared file
  modify fun sh => { sh with tree := t, tracer := { provider.tracer with next := sh.run * 1000000 + 1 } }
  if provider.enabled then
    let serviceName := if cfg.tracing.serviceName = "" then "passflow" else cfg.tracing.serviceName
    let rate := if cfg.tracing.sampleRate ≤ 0 then 1 else cfg.tracing.sampleRate
    log .info "trace" "tracing enabled" [.str "exporter", .str cfg.tracing.exporter, .str "service", .str serviceName,
      .str "sample_rate", .float rate]
  let flags := cfg.flags.getD {}
  log .debug "config" "flags initialized" [.str "count", .int flags.values.length,
    .str "flags", .dict (flags.all.map fun (k, b) => (k, .bool b))]
  let savePath := Config.savePath sh.used (sh.env.lookup "HOME")
  let empty : Service := Service.new {} { clock := sh.clock }
  let opened : App := { settings := cfg, savePath, flags, service := empty, exporter := provider.exporter }
  modify fun sh => { sh with app := some opened }
  if cfg.history.enabled then
    let path := cfg.history.path
    let sh ← get
    let existed := sh.tree.isFile path
    let (t, applied, r) := History.openDatabaseTold sh.tree path
    modifyTree fun _ => t
    for m in applied do log .debug "db" ("migrate: " ++ m ++ " (0s)\n")
    match r with
    | .error e => closeApp; throw ("opening run history: " ++ e)
    | .ok c =>
      log .debug "db" "history database ready" [.str "path", .str path, .str "existed", .bool existed]
      modify fun sh => { sh with app := sh.app.map fun a => { a with connection := some c } }
  closingOnFailure reload

end PassPlan.Cli
