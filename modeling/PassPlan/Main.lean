import PassPlan.Cli.Host
import Std.Time.DateTime.Timestamp
/-!
The `passflow` command line on the host's files: it reads what the run names, runs the
command line at the present time, prints what the run printed and makes the changes it made.
It exits with 1 when the command failed. A watch sees no changes and ends after its first load.
-/

open PassPlan.Cli

/-- What each path holds on the host: text, a directory, or nothing that can be read. -/
def readFound (paths : List String) : IO (List (String × Found)) :=
  paths.filterMapM fun (p : String) => do
    try
      return some (p, .text (← IO.FS.readFile p))
    catch e =>
      match e with
      | .inappropriateType .. => return some (p, .dir)
      | _ => return none

/-- Makes one change on the host. -/
def makeChange : Change → IO Unit
  | .makeDir p => IO.FS.createDirAll p
  | .write p s => IO.FS.writeFile p s
  | .remove p => IO.FS.removeFile p

/-- Runs the command line given. -/
def main (args : List String) : IO UInt32 := do
  let cwd := (← IO.getEnv "PWD").getD "/"
  let env ← hostVariables.filterMapM fun n => return (← IO.getEnv n).map (n, ·)
  let home := env.lookup "HOME"
  let named := namedPaths cwd env args
  let input ← if args.contains "-" then (← IO.getStdin).readToEnd else pure ""
  let ns := (← Std.Time.Timestamp.now).toNanosecondsSinceUnixEpoch.val
  let clock : PassPlan.Instant := ⟨ns / 1000000000, (ns % 1000000000).toNat, 0⟩
  let found ← readFound named
  let first := runOnHost (hostTree cwd home found) env input clock args
  let more ← readFound (first.unnamed named)
  let r := if more.isEmpty then first
    else runOnHost (hostTree cwd home (found ++ more)) env input clock args
  IO.print r.out
  IO.eprint r.err
  r.changes.forM makeChange
  return if r.error.isSome then 1 else 0
