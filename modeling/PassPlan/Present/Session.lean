import PassPlan.Cli.Session
import PassPlan.Present.Decode
/-!
Sessions of the program in JSON. A session names the files the workspace starts with, the
environment variables to set (a text) or unset (null), the runs (each with its words, its
standard input, and for a watched run the batches of writes it sees), and what to read
afterwards. Its answer lists each run's output, standard error (not for a watched run) and
failure, the files read, and the trace and the listing when asked for.
-/
namespace PassPlan

namespace Decode

/-- A batch of writes from its JSON form. -/
def batch (j : Json) : Cli.Batch :=
  { writes := match j.get "writes" with
      | .obj kvs => kvs.map fun (p, v) => (p, v.str?)
      | _ => [],
    expectReload := (j.get "expect_reload").bool?.getD true,
    waitMs := ((j.get "wait_ms").int?.getD 150).toNat }

/-- A command line from its JSON form. -/
def invocation (j : Json) : Cli.Invocation :=
  { args := j.texts "args", input := j.text "stdin",
    watch := match j.get "watch" with
      | .arr bs => some (bs.map batch)
      | _ => none }

/-- A session from its JSON form. -/
def session (j : Json) : Cli.Session :=
  { seeds := seeds j,
    env := match j.get "env" with
      | .obj kvs => kvs.map fun (k, v) => (k, v.str?)
      | _ => [],
    invocations := (j.items "runs").map invocation,
    reads := j.texts "read", logReads := j.texts "read_log",
    traceFile := (j.get "trace_file").str?,
    listFiles := j.flag "list_files" }

end Decode

/-- A run's answer: its output, standard error unless it was watched, and its failure. -/
def Cli.Outcome.toJson (o : Cli.Outcome) : Json :=
  let error : Json := match o.error with
    | some e => .str e
    | none => .null
  if o.watched then .obj [("out", .str o.out), ("error", error)]
  else .obj [("out", .str o.out), ("err", .str o.err), ("error", error)]

/-- A session's answer. -/
def Cli.SessionAnswer.toJson (a : Cli.SessionAnswer) : Json :=
  let files : Json := .obj (a.files.map fun (p, t) => (p, match t with
    | some s => .str s
    | none => .null))
  let trace : List (String × Json) := match a.trace with
    | none => []
    | some (.ok (some ss)) => [("trace", .arr (ss.map (·.toJson)))]
    | some (.ok none) => [("trace", .null)]
    | some (.error e) => [("trace", .str e)]
  let listing : List (String × Json) := match a.listing with
    | some ps => [("tree", .arr (ps.map .str))]
    | none => []
  .obj ([("runs", .arr (a.outcomes.map (·.toJson))), ("files", files)] ++ trace ++ listing)

/-- The answer of a session given in JSON. -/
def sessionAnswer (j : Json) : Json := (Decode.session j).run.toJson

end PassPlan
