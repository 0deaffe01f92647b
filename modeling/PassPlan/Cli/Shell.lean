import PassPlan.Backend.Service
import PassPlan.History.Store
import PassPlan.Trace.Provider
import PassPlan.Config.Layers
import PassPlan.Log.Line
import PassPlan.Cli.Command
/-!
The state a command runs in: the file tree, the environment, standard input, what has been
written to standard output and standard error, the log file once logging is on, the tracer, the
clock, the run's number, the version reported, the settings, and the application once a command
opens it. A command
is a step in this state that may fail with a message; what it changed before failing stays.
-/
namespace PassPlan.Cli

open Workspace (Tree)

/-- The application a command opens: its settings, the file settings changes are written to,
the opt-in flags, the service over the pipelines, the open history database, and where ended
spans go. -/
structure App where
  settings : Config.Settings
  savePath : String
  flags : Config.Flags
  service : Backend.Service
  connection : Option History.Connection := none
  exporter : Trace.Exporter := .none

/-- The state of one run of the program. -/
structure Shell where
  tree : Tree
  env : List (String × String) := []
  input : String := ""
  out : String := ""
  err : String := ""
  /-- The file log lines are appended to, once logging is on. -/
  logFile : Option String := none
  tracer : Trace.Tracer := { recording := false }
  /-- The time every stamp of the run reads. -/
  clock : Instant := ⟨0, 0, 0⟩
  /-- The run's number, from which its run ids come. -/
  run : Nat := 1
  /-- The version the program reports. -/
  version : String := programVersion
  settings : Config.Settings := {}
  /-- The settings file the settings were read from, empty for none. -/
  used : String := ""
  app : Option App := none

/-- A step of a command: it changes the state and may fail with a message. -/
abbrev Cmd := ExceptT String (StateM Shell)

/-- Writes to standard output. -/
def say (s : String) : Cmd Unit := modify fun sh => { sh with out := sh.out ++ s }

/-- Writes to standard error. -/
def complain (s : String) : Cmd Unit := modify fun sh => { sh with err := sh.err ++ s }

/-- A variable of the environment. -/
def envValue? (name : String) : Cmd (Option String) := return (← get).env.lookup name

/-- Changes the file tree. -/
def modifyTree (f : Tree → Tree) : Cmd Unit := modify fun sh => { sh with tree := f sh.tree }

/-- Appends a log line when logging is on. -/
def log (level : Log.Level) (category message : String) (fields : List Value := []) : Cmd Unit := do
  let sh ← get
  match sh.logFile with
  | none => pure ()
  | some p =>
    let line := Log.format sh.clock level.code category message fields ++ "\n"
    let old := (sh.tree.readText p).toOption.getD ""
    match sh.tree.writeText p (old ++ line) with
    | .ok t => set { sh with tree := t }
    | .error _ => pure ()

/-- Logs an error with its message as the last field. -/
def logError (category message err : String) (fields : List Value := []) : Cmd Unit :=
  log .error category message (fields ++ [.str "error", .str err])

/-- Runs a step of the tracer. -/
def traced (f : Trace.Tracer → Trace.Tracer × α) : Cmd α := do
  let sh ← get
  let (tracer, a) := f sh.tracer
  set { sh with tracer }
  pure a

/-- The open application. -/
def app : Cmd App := do
  match (← get).app with
  | some a => pure a
  | none => throw "the application is not open"

/-- The service of the open application. -/
def service : Cmd Backend.Service := return (← app).service

/-- Replaces the service of the open application. -/
def setService (s : Backend.Service) : Cmd Unit :=
  modify fun sh => { sh with app := sh.app.map fun a => { a with service := s } }

/-- Runs a step of the service. -/
def withService (f : Backend.Service → Backend.Service × α) : Cmd α := do
  let (s, a) := f (← service)
  setService s
  pure a

/-- Fails with the message of an error. -/
def orFail (r : Except ε α) (message : ε → String) : Cmd α :=
  match r with
  | .ok a => pure a
  | .error e => throw (message e)

end PassPlan.Cli
