import PassPlan.Cli.Commands
/-!
A run of the program on a host's own files. The program works on a file tree, so a host run
first gathers into one the files it can name before it starts: the settings files it looks
for, the log file, and every word of the command line that names a file or a directory. A
directory is known through what is named in it, since its entries are not listed. After the
run, the directories it made, the text files it wrote and the files it removed are the changes
to make on the host. A history database lives for the run only: its form is the store's own.

A text file the run writes without having been named is read from the host when it exists
and the run is made again, so that an append keeps what the file held.
-/
namespace PassPlan.Cli

open Workspace (Tree)

/-- The version a built program reports: its release, commit and build date. -/
def releaseVersion : String := programVersion ++ " (commit: none, built: unknown)"

/-- The variables of the environment the program reads: the home directory, the log file, and
one for each key of the settings and each section above a key. -/
def hostVariables : List String :=
  let keys := Config.Layers.keys { defaults := Config.defaultLayer none }
  let sections := keys.flatMap fun k =>
    let path := k.splitOn "."
    ((List.range path.length).drop 1).map fun i => ".".intercalate (path.take i)
  ["HOME", "PASSFLOW_LOG"] ++ (sections ++ keys).eraseDups.map Config.envName

/-- The words of a command line that may name a file: each word, and what follows `=` in a
flag written with its value. -/
def pathWords (args : List String) : List String :=
  args.filterMap fun w =>
    if w.startsWith "-" then
      match w.splitOn "=" with
      | _ :: v :: rest => some ("=".intercalate (v :: rest))
      | _ => none
    else some w

/-- The files a run can name before it starts, as absolute paths: the words of its command
line, the settings files it looks for, and the log file a variable or the defaults name. -/
def namedPaths (cwd : String) (env : List (String × String)) (args : List String) : List String :=
  let home := env.lookup "HOME"
  let dir := Config.configDir home
  let settingsFiles := if dir = "" then [] else
    Config.fileExtensions.map (fun e => Workspace.Path.join [dir, "config." ++ e]) ++
      [Workspace.Path.join [dir, "config"]]
  let logFiles := [(env.lookup "PASSFLOW_LOG").getD "", (Config.Settings.defaults home).logPath]
  ((pathWords args ++ [Config.localPath] ++ settingsFiles ++ logFiles).filter (· ≠ "")).map
    (Workspace.Path.abs cwd) |>.eraseDups

/-- What the host holds at a path. -/
inductive Found where
  | text (s : String)
  | dir

/-- The tree of a host run: the working directory, the home directory and what was found, each
with its missing parents. -/
def hostTree (cwd : String) (home : Option String) (found : List (String × Found)) : Tree :=
  let base : Tree := { cwd }
  let made (t : Tree) (p : String) : Tree := (t.mkdirAll p).toOption.getD t
  let t := made (made base cwd) ((home.filter (· ≠ "")).getD cwd)
  found.foldl (fun t (p, f) =>
    let t := made t (Workspace.Path.dir p)
    match f with
    | .text s => (t.writeText p s).toOption.getD t
    | .dir => made t p) t

/-- A change to make on the host. -/
inductive Change where
  | makeDir (path : String)
  | write (path text : String)
  | remove (path : String)

/-- The changes between two trees: new directories first, then text files written, then files
removed. -/
def changes (before after : Tree) : List Change :=
  let dirs := after.nodes.filterMap fun (p, n) =>
    match n, before.node? p with
    | .dir, some .dir => none
    | .dir, _ => some (Change.makeDir p)
    | _, _ => none
  let writes := after.nodes.filterMap fun (p, n) =>
    match n, before.node? p with
    | .file (.text s), some (.file (.text old)) => if s = old then none else some (Change.write p s)
    | .file (.text s), _ => some (Change.write p s)
    | _, _ => none
  let removed := before.nodes.filterMap fun (p, n) =>
    match n, after.node? p with
    | .file _, none => some (Change.remove p)
    | _, _ => none
  dirs ++ writes ++ removed

/-- The path a change is made at. -/
def Change.path : Change → String
  | .makeDir p | .write p _ | .remove p => p

/-- What a host run gives: standard output, standard error, the failure it ended with and the
changes to make. -/
structure HostRun where
  out : String
  err : String
  error : Option String
  changes : List Change

/-- Runs a command line on a tree. -/
def runOnHost (t : Tree) (env : List (String × String)) (input : String) (clock : Instant)
    (args : List String) : HostRun :=
  let shell : Shell := { tree := t, env, input, clock, version := releaseVersion }
  let (r, sh) := (execute args).run.run shell
  let error := match r with
    | .ok e => e
    | .error e => some e
  { out := sh.out, err := sh.err, error, changes := changes t sh.tree }

/-- The files a run wrote that were not among those it named: to be read from the host before
the run is made again. -/
def HostRun.unnamed (r : HostRun) (named : List String) : List String :=
  r.changes.filterMap fun c =>
    match c with
    | .write p _ => if named.contains p then none else some p
    | _ => none

end PassPlan.Cli
