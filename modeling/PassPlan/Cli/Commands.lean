import PassPlan.Cli.App
import PassPlan.Cli.Parse
import PassPlan.Config.Save
import PassPlan.Present.Service
import PassPlan.Present.Document
import PassPlan.Json.Writer
import PassPlan.Workspace.Watch
/-!
What the commands do, and how a command line runs. The command is looked up first; its flags
are read; help and the version are answered at once, and a command that only groups others
shows its help. Otherwise the settings are loaded, the positional arguments checked, logging
set up when debugging is on, the required flags checked, and the command run. A failure is
printed to standard error after `Error: ` and is what the run returns.
-/
namespace PassPlan.Cli

open Workspace (Tree PathError)
open Backend (Service)

/-- The width text views are laid out in. -/
def textWidth : Nat := 100

/-- Writes a document: as indented JSON with `--json`, else as text. -/
def present (g : Given) (d : Present.Document) : Cmd Unit :=
  if g.switch "json" then do say (Json.pretty (← orFail d.json? id))
  else say (Present.printed (d.text textWidth))

/-- Runs a step with the application open, closing it afterwards, also when the step fails. -/
def withApp (step : Cmd α) : Cmd α := do
  openApp
  let a ← closingOnFailure step
  closeApp
  pure a

/-- The flow a reference names for the service. -/
def resolveRef (ref : String) : Cmd Flow.Name := do
  orFail ((← service).resolveName ref) Backend.ServiceError.message

/-- The settings file changes are written to. -/
def settingsFile : Cmd String := do
  let sh ← get
  pure (Config.savePath sh.used (sh.env.lookup "HOME"))

/-- Lists the backends with their lineage, marking the default one. -/
def listBackends (g : Given) : Cmd Unit := withApp do
  let s ← service
  let a ← app
  let views ← s.backends.mapM fun b => do
    let lineage ← orFail (s.env.backends.lineage b.name) Backend.BackendError.message
    pure (Present.BackendView.ofBackend b lineage a.settings.defaultBackend)
  present g (.backends views)

/-- Makes a backend the default in the settings file. -/
def useBackend (name : String) : Cmd Unit := withApp do
  let b ← orFail ((← service).backend name) Backend.ServiceError.message
  let a ← app
  let t ← orFail (Config.saveValue (← get).tree a.savePath "default_backend" b.name)
    ("saving default backend: " ++ ·)
  modifyTree fun _ => t
  say ("default backend set to " ++ b.name ++ " (" ++ a.savePath ++ ")\n")

/-- A number right-aligned in a width. -/
def padLeft (w : Nat) (s : String) : String := String.ofList (List.replicate (w - s.length) ' ') ++ s

/-- The progress lines of an execution: a line for each pass started and each that failed. -/
def progressText (events : List Run.Event) : String :=
  String.join (events.filterMap fun ev =>
    let head := padLeft 4 (toString (ev.step.index + 1)) ++ "  " ++ ev.step.pass
    match ev.kind with
    | .started => some (head ++ "\n")
    | .failed => some (head ++ " failed: " ++ ((ev.step.error.map Run.StepError.text).getD "<nil>") ++ "\n")
    | .finished => none)

/-- Compiles a model with a flow: the report is printed, a failed run is the failure, and the
transformed model is written where `--out` says. -/
def compile (g : Given) (ref path : String) : Cmd Unit := do
  let sh ← get
  let model ← if path = "-" then orFail (Model.load sh.input) Model.LoadError.message
    else orFail (sh.tree.loadModel path) Workspace.LoadError.message
  withApp do
    let n ← resolveRef ref
    let c ← unwrap (← compileFlow n model)
    if g.switch "progress" then complain (progressText c.events)
    present g (.report (Present.ReportView.ofReport c.report))
    if let some f := c.report.failure then throw f.text
    let out := g.text "out"
    if out ≠ "" then
      let t ← orFail ((← get).tree.writeModel out c.model) fun e => "writing model: " ++ e.text
      modifyTree fun _ => t

/-- Writes the starting settings file, unless one exists and `--force` is not given. -/
def initSettings (g : Given) : Cmd Unit := do
  let path ← match g.args with
    | [p] => pure p
    | _ => settingsFile
  let sh ← get
  match sh.tree.entry true path with
  | .ok _ => if !g.switch "force" then throw (path ++ " already exists (use --force to overwrite)")
  | .error .noent => pure ()
  | .error e => throw (PathError.mk "stat" path e).text
  let t ← orFail (Config.writeTemplate (← get).tree path) id
  modifyTree fun _ => t
  say ("wrote " ++ path ++ "\n")

/-- Sets one value in the settings file. -/
def setSetting (key value : String) : Cmd Unit := do
  let path ← settingsFile
  let t ← orFail (Config.saveValue (← get).tree path key value) id
  modifyTree fun _ => t
  say (key ++ " = " ++ value ++ " (" ++ path ++ ")\n")

/-- Compares two flows' requirements and plans. -/
def diffFlows (g : Given) (a b : String) : Cmd Unit := withApp do
  let l ← resolveRef a
  let r ← resolveRef b
  let d ← unwrap (← diffPlans l r)
  present g (.diff (Present.DiffView.ofRequirementDiff d))

/-- Lists flows: all of them, the global ones, or a backend's; with `--check`, the plan entries
no pass is registered for, which is then a failure. -/
def listFlows (g : Given) : Cmd Unit := withApp do
  if g.switch "check" then
    let missing ← unwrap (← checkPlans)
    present g (.missing (missing.map Present.MissingView.ofMissing))
    if !missing.isEmpty then throw (toString missing.length ++ " plan entries have no registered pass")
  else
    let s ← service
    let defs ← if g.switch "global" then pure (s.flows "")
      else match g.args with
        | [name] => do
          let b ← orFail (s.backend name) Backend.ServiceError.message
          pure (s.flows b.name)
        | _ => pure s.env.flows.defs
    present g (.flows (defs.map Present.FlowView.ofDefinition))

/-- The history filter the flags of `history list` ask for. -/
def historyFilter (g : Given) : Except String History.Filter := do
  let flow := g.text "flow"
  let backend := g.text "backend"
  let state := g.text "state"
  if flow ≠ "" && backend ≠ "" then throw "--flow and --backend are exclusive"
  let named ← if flow ≠ "" then (Flow.Name.parse flow).mapError fun e => (Flow.Error.invalidName e).message
    else pure Flow.Name.zero
  let named := if backend ≠ "" then ⟨Flow.normalizeBackend backend, ""⟩ else named
  let st ← if state ≠ "" then (Run.State.parse state).map some else pure none
  pure { flow := named, state := st, limit := g.int "limit" 20 }

/-- Lists the recorded runs a filter matches, newest first. -/
def listRuns (g : Given) : Cmd Unit := do
  let f ← orFail (historyFilter g) id
  withApp do
    let rs ← orFail ((← service).runs f) Backend.ServiceError.message
    present g (.reports (rs.map Present.ReportView.ofReport))

/-- The run a prefix of its id picks out among runs. -/
def matchPrefix (runs : List Run.Report) (pre : String) : Except String Run.Report :=
  match runs.filter fun r => r.runId.startsWith pre with
  | [r] => .ok r
  | [] => .error (History.HistoryError.notFound pre).text
  | _ => .error ("run id prefix " ++ Text.quote pre ++ " is ambiguous")

/-- Shows one recorded run, found by its id or a unique prefix of it. -/
def showRun (g : Given) (runId : String) : Cmd Unit := withApp do
  let s ← service
  let r ← match s.run runId with
    | .ok r => pure r
    | .error (.history (.notFound _)) => do
      let all ← orFail (s.runs {}) Backend.ServiceError.message
      orFail (matchPrefix all runId) id
    | .error e => throw e.message
  present g (.report (Present.ReportView.ofReport r))

/-- Keeps the newest recorded runs. -/
def pruneHistory (g : Given) : Cmd Unit := withApp do
  let n ← pruneRuns (g.int "keep" 0)
  say ("removed " ++ toString n ++ " runs\n")

/-- Prints the plan a flow resolves to, grouped by contributing flow with `--explain`. -/
def planFlow (g : Given) (ref : String) : Cmd Unit := withApp do
  let n ← resolveRef ref
  let p ← unwrap (← resolvePlan n)
  let cs ← if g.switch "explain" then unwrap (← explainPlan n) else pure []
  present g (.plan (Present.PlanView.ofPlan p cs))

/-- Reports what is loaded and the plan entries no pass is registered for. -/
def checkPipelines : Cmd Unit := do
  let s ← service
  say ("loaded " ++ toString s.env.backends.available.length ++ " backends, " ++ toString s.env.flows.size ++
    " flows, " ++ toString s.env.catalog.size ++ " passes\n")
  match ← checkPlans with
  | .error e => say ("check failed: " ++ e.message ++ "\n")
  | .ok missing => say (Present.printed ((Present.Document.missing (missing.map Present.MissingView.ofMissing)).text textWidth))

/-- Watches the pipelines directory while batches of changes are made to it: after each batch
with a change that counts, the pipelines are loaded again and checked, or the failure printed. -/
def watchPipelines (batches : List (List (String × Option String))) : Cmd Unit := do
  let sh ← get
  let dir := sh.settings.pipelinesDir
  if dir = "" then throw "watch needs a pipelines directory (set pipelines_dir or pass --pipelines)"
  withApp do
    let debounce := if sh.settings.watch.debounce > 0 then sh.settings.watch.debounce else 500000000
    let w : Workspace.Watcher := { dir, debounce := (debounce / 1000000).toNat }
    orFail (w.start (← get).tree) id
    log .debug "watcher" "watching pipelines" [.str "dir", .str dir, .str "debounce", .str (Duration.text debounce)]
    say ("watching " ++ dir ++ "\n")
    checkPipelines
    for writes in batches do
      let (t, hit) := w.apply (← get).tree writes
      modifyTree fun _ => t
      if hit then
        log .info "watcher" "pipelines changed, reloading" [.str "dir", .str dir]
        match ← tryCatch (do reload; pure none) (fun e => pure (some e)) with
        | some e => say ("reload failed: " ++ e ++ "\n")
        | none => checkPipelines

/-- A word as a quoted literal: between backquotes when it can be, else in double quotes. -/
def backquoted (s : String) : String :=
  if s.toList.any fun c => c = '`' || (c.toNat < 32 && c ≠ '\t') || c.toNat = 127 then Text.quote s
  else "`" ++ s ++ "`"

/-- Shows the help of the command a line names, or says the topic is unknown and shows the
usage of the top command. -/
def helpTopic (args : List String) : Cmd Unit := do
  let (c, _, failure) := findCommand args
  match failure with
  | some _ =>
    say ("Unknown help topic [" ++ " ".intercalate (args.map backquoted) ++ "]\n")
    say topCommand.usage
  | none => say c.helpText

/-- Checks the positional arguments against a command's rule. -/
def ArgRule.check (r : ArgRule) (c : Command) (args : List String) : Except String Unit :=
  match r with
  | .free => .ok ()
  | .none => match args with
    | a :: _ => .error ("unknown command " ++ Text.quote a ++ " for " ++ Text.quote c.commandPath)
    | [] => .ok ()
  | .exactly n =>
    if args.length ≠ n then .error ("accepts " ++ toString n ++ " arg(s), received " ++ toString args.length)
    else .ok ()
  | .atMost n =>
    if args.length > n then .error ("accepts at most " ++ toString n ++ " arg(s), received " ++ toString args.length)
    else .ok ()

/-- Checks that every required flag was given. -/
def checkRequired (c : Command) (g : Given) : Except String Unit :=
  let missing := ((c.runFlags.filter fun f => f.required && !g.changed f.name).map (·.name)).mergeSort
    fun a b => decide (a ≤ b)
  if missing.isEmpty then .ok ()
  else .error ("required flag(s) \"" ++ "\", \"".intercalate missing ++ "\" not set")

/-- Loads the settings with the flags of the command line that override them. -/
def loadSettings (c : Command) (g : Given) : Cmd Unit := do
  let reads (name : String) : Bool := c.path = [] || c.inheritedFlags.any (·.name = name)
  let given := (if reads "pipelines" && g.changed "pipelines" then [("pipelines_dir", g.text "pipelines")] else []) ++
    (if reads "backend" && g.changed "backend" then [("default_backend", g.text "backend")] else [])
  let sh ← get
  let (t, loaded) := Config.load sh.tree (g.text "config") given sh.env
  set { sh with tree := t, settings := loaded.settings, used := loaded.used }

/-- Opens a file for appending, creating it when missing; its directory must exist. -/
def openAppend (t : Tree) (p : String) : Except PathError Tree :=
  if p = "" then .error ⟨"open", p, .noent⟩
  else
    match t.entry true p with
    | .ok .dir => .error ⟨"open", p, .isdir⟩
    | .ok _ => .ok t
    | .error .noent => (t.writeText p "").mapError fun e => ⟨"open", p, e.errno⟩
    | .error e => .error ⟨"open", p, e⟩

/-- Turns logging on when debugging is asked for by the flag, the settings or the
environment, appending to the log file, and logs the start. -/
def setupLogging (g : Given) : Cmd Unit := do
  let sh ← get
  let setVar (name : String) : Option String := (sh.env.lookup name).filter (· ≠ "")
  if g.switch "debug" || sh.settings.debug || (setVar "PASSFLOW_DEBUG").isSome then
    let path := (setVar "PASSFLOW_LOG").getD sh.settings.logPath
    let t ← orFail (openAppend sh.tree path) fun e =>
      "initializing logging: error opening file for logging: " ++ e.text
    set { sh with tree := t, logFile := some path }
    log .info "config" "passflow starting" [.str "version", .str sh.version, .str "config", .str sh.used,
      .str "pipelines", .str sh.settings.pipelinesDir, .str "backend", .str sh.settings.defaultBackend]

/-- Runs what a command does. -/
def perform (g : Given) (batches : List (List (String × Option String))) : Action → Cmd Unit
  | .listBackends => listBackends g
  | .useBackend => useBackend (g.args.headD "")
  | .compile => compile g (g.args.headD "") (g.args.getD 1 "")
  | .completion _ => pure ()
  | .configInit => initSettings g
  | .configPath => do say ((← settingsFile) ++ "\n")
  | .configSet => setSetting (g.args.headD "") (g.args.getD 1 "")
  | .diff => diffFlows g (g.args.headD "") (g.args.getD 1 "")
  | .listFlows => listFlows g
  | .help => helpTopic g.args
  | .listRuns => listRuns g
  | .pruneRuns => pruneHistory g
  | .showRun => showRun g (g.args.headD "")
  | .plan => planFlow g (g.args.headD "")
  | .watch => watchPipelines batches

/-- Runs a found command with its part of the line. -/
def runFound (c : Command) (line : List String) (batches : List (List (String × Option String))) : Cmd Unit := do
  let g ← orFail (c.read line) id
  if g.switch "help" then say c.helpText
  else if c.path = [] && g.switch "version" then say (versionText (← get).version)
  else match c.action with
    | none => say c.helpText
    | some action => do
      loadSettings c g
      orFail (c.args.check c g.args) id
      setupLogging g
      orFail (checkRequired c g) id
      perform g batches action

/-- Runs a command line, a watch seeing the batches of changes: the failure it ends with,
which has been printed. -/
def execute (args : List String) (batches : List (List (String × Option String)) := []) : Cmd (Option String) := do
  let (c, line, failure) := findCommand args
  match failure with
  | some e =>
    complain ("Error: " ++ e ++ "\nRun '" ++ c.commandPath ++ " --help' for usage.\n")
    pure (some e)
  | none =>
    match ← tryCatch (do runFound c line batches; pure none) (fun e => pure (some e)) with
    | some e => complain ("Error: " ++ e ++ "\n"); pure (some e)
    | none => pure none

end PassPlan.Cli
