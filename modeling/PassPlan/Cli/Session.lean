import PassPlan.Cli.Commands
import PassPlan.Present.Stable
/-!
A session of the program: a workspace directory holding the given files and a home directory,
an environment with `HOME` set to that directory and the given variables changed, and command
lines run one after another in it, each seeing the files the ones before it left. Each run starts
afresh otherwise: no logging, no tracing, its flags at their defaults. Run `k` (from one) gives
its compiles the run ids of stream `k`, and every clock reads the same instant.

A watched run is a watch command that sees batches of changes to the files; what it prints
after each batch is part of its output, and it ends when the batches do.

What the session answers is masked so that runs can be compared: the workspace directory,
times and durations are replaced by fixed marks.
-/
namespace PassPlan.Cli

open Workspace (Tree)

/-- A batch of changes made while a watch runs: texts written or files removed by path, and
whether a reload is awaited after it. -/
structure Batch where
  writes : List (String × Option String)
  expectReload : Bool := true
  waitMs : Nat := 150

/-- One command line: its words, its standard input, and for a watched run the batches of
changes it sees. -/
structure Invocation where
  args : List String
  input : String := ""
  watch : Option (List Batch) := none

/-- What one command line gave: standard output, standard error and the failure it returned. -/
structure Outcome where
  out : String
  err : String
  error : Option String
  watched : Bool

/-- A session: the files the workspace starts with, the environment changes, the command lines,
and what to look at afterwards: files, log files, a trace file and the listing. -/
structure Session where
  seeds : List (String × Tree.Seed) := []
  env : List (String × Option String) := []
  invocations : List Invocation := []
  reads : List String := []
  logReads : List String := []
  traceFile : Option String := none
  listFiles : Bool := false

/-- What a session answers. -/
structure SessionAnswer where
  outcomes : List Outcome
  /-- Each file asked for, masked, or none when it cannot be read. -/
  files : List (String × Option String)
  trace : Option (Except String (Option (List Trace.Summary)))
  listing : Option (List String)

/-- The workspace directory. -/
def workspaceRoot : String := "/tmp/passflow-workspace"

/-- The instant every clock of a session reads. -/
def sessionClock : Instant := ⟨Civil.toSeconds ⟨2025, 1, 2, 3, 4, 5⟩, 0, 0⟩

/-- The environment of a session: `HOME` in the workspace, then the changes in order. -/
def sessionEnv (changes : List (String × Option String)) : List (String × String) :=
  changes.foldl (fun env (k, v) =>
    let rest := env.filter (·.1 ≠ k)
    match v with
    | some x => rest ++ [(k, x)]
    | none => rest) [("HOME", Workspace.Path.join [workspaceRoot, "home"])]

/-- Runs one command line in a tree: the tree after it and what it gave. -/
def invoke (t : Tree) (env : List (String × String)) (k : Nat) (inv : Invocation) : Tree × Outcome :=
  let shell : Shell := { tree := t, env, input := inv.input, clock := sessionClock, run := k }
  let batches := (inv.watch.getD []).map (·.writes)
  let (r, sh) := (execute inv.args batches).run.run shell
  let error := match r with
    | .ok e => e
    | .error e => some e
  let mask := Present.stableText workspaceRoot
  (sh.tree, { out := mask sh.out, err := mask sh.err, error := error.map mask, watched := inv.watch.isSome })

/-- Runs a session. -/
def Session.run (s : Session) : SessionAnswer :=
  let env := sessionEnv s.env
  let start := Tree.seeded workspaceRoot s.seeds
  let (t, outcomes) := s.invocations.zipIdx.foldl (fun (t, acc) (inv, i) =>
    let (t, o) := invoke t env (i + 1) inv
    (t, acc ++ [o])) (start, [])
  let read (masked : String → String) (p : String) : String × Option String :=
    (p, (t.readText p).toOption.map masked)
  { outcomes,
    files := s.reads.map (read (Present.stableText workspaceRoot)) ++
      s.logReads.map (read (Present.stableLog workspaceRoot)),
    trace := s.traceFile.map (Trace.fileSummary t),
    listing := if s.listFiles then some (t.listing workspaceRoot) else none }

end PassPlan.Cli
