import PassPlan.Cli.Flag
/-!
The commands of the `passflow` program: a tree of named commands, each with its use line, its
one-line and long descriptions, the positional arguments it takes, its own flags and what it
does. Commands that only group others do nothing themselves and show their help instead. The
top command's flags are inherited by every command below it, unless a command has a flag of
the same name; every command also has `--help`, and the top command `--version`.
-/
namespace PassPlan.Cli

/-- How many positional arguments a command takes. -/
inductive ArgRule where
  /-- No rule of its own: below the top command anything goes, at the top a word that names
  no command is an unknown command. -/
  | free
  /-- None: a word there is an unknown command. -/
  | none
  /-- Exactly this many. -/
  | exactly (n : Nat)
  /-- At most this many. -/
  | atMost (n : Nat)
deriving DecidableEq, Repr

/-- What a command does when run. -/
inductive Action where
  | listBackends
  | useBackend
  | compile
  | completion (shell : String)
  | configInit
  | configPath
  | configSet
  | diff
  | listFlows
  | help
  | listRuns
  | pruneRuns
  | showRun
  | plan
  | watch
deriving DecidableEq, Repr

/-- A command: where it sits (the names from the top), its use line, its descriptions, the
arguments it takes, its own flags, and what it does; a command with no action shows its help. -/
structure Command where
  path : List String
  use : String
  short : String
  long : String := ""
  args : ArgRule := .free
  flags : List FlagSpec := []
  action : Option Action := none
  /-- Whether the use line leaves out the flags mark. -/
  bareUseLine : Bool := false
deriving Repr

/-- The program's name. -/
def programName : String := "passflow"

/-- The program's version. -/
def programVersion : String := "dev"

namespace Command

/-- The command's name: the first word of its use line. -/
def name (c : Command) : String := (c.use.splitOn " ").headD ""

/-- Whether the command does something of its own. -/
def runnable (c : Command) : Bool := c.action.isSome

/-- The names leading to the command, the program's first. -/
def commandPath (c : Command) : String := " ".intercalate (programName :: c.path)

end Command

/-- The flags every command inherits from the top command. -/
def globalFlags : List FlagSpec :=
  [ { name := "config", short := "c", kind := .text,
      usage := "config file (default: ~/.config/passflow/config.yaml)" },
    { name := "debug", kind := .switch, usage := "write debug logs to log_path (also PASSFLOW_DEBUG=1)",
      default := "false" },
    { name := "json", kind := .switch, usage := "print JSON instead of text", default := "false" },
    { name := "no-color", kind := .switch, usage := "disable colored output", default := "false" },
    { name := "pipelines", short := "p", kind := .text,
      usage := "directory of pipeline files (overrides pipelines_dir)" },
    { name := "backend", short := "b", kind := .text,
      usage := "backend for bare flow names (overrides default_backend)" } ]

/-- A switch that is off by default. -/
def switchFlag (name short usage : String) : FlagSpec :=
  { name, short, kind := .switch, usage, default := "false" }

/-- The commands, the top one first. -/
def commands : List Command :=
  [ { path := [], use := programName, short := "Resolve and run compiler pass flows for HLS backends",
      long := "passflow resolves named flows into ordered pass plans and runs them\nagainst a model graph.\n\nBackends (vivado, vitis, vitisaccelerator) and their flows are described in\npipeline files. The built-in pipelines are used unless pipelines_dir or\n--pipelines points at a directory of *.yaml files." },
    { path := ["backends"], use := "backends", short := "List registered backends",
      long := "List every backend registered by the pipeline files, parents included.\nThe default backend is marked with *.\n\nExamples:\n  passflow backends\n  passflow backends --json | jq '.[].default_flow'\n  passflow backends use vitis",
      args := .none, action := some .listBackends },
    { path := ["backends", "use"], use := "use <backend>", short := "Set the default backend in the config file",
      args := .exactly 1, action := some .useBackend },
    { path := ["compile"], use := "compile <flow> <model.yaml>", short := "Run a flow's passes against a model",
      long := "Resolve a flow and execute its passes, in order, against a model graph\nread from a YAML model file (\"-\" reads stdin). Execution stops at the first\nfailing pass; the remaining passes are reported as skipped.\n\nThe run is recorded in the history database unless history is disabled.\n\nExamples:\n  passflow compile vivado:ip model.yaml\n  passflow compile vitis model.yaml -o out.yaml\n  passflow compile vivado:write model.yaml --progress\n  cat model.yaml | passflow compile optimize - --json",
      args := .exactly 2, action := some .compile,
      flags := [{ name := "out", short := "o", kind := .text, usage := "write the transformed model to this file" },
        switchFlag "progress" "" "print each pass as it runs (stderr)"] },
    { path := ["completion"], use := "completion",
      short := "Generate the autocompletion script for the specified shell",
      long := "Generate the autocompletion script for passflow for the specified shell.\nSee each sub-command's help for details on how to use the generated script.\n",
      args := .none },
    { path := ["config"], use := "config", short := "Show or change the configuration file" },
    { path := ["config", "init"], use := "init [path]", short := "Write a commented default config file",
      args := .atMost 1, action := some .configInit,
      flags := [switchFlag "force" "f" "overwrite an existing file"] },
    { path := ["config", "path"], use := "path", short := "Print the config file in use",
      args := .none, action := some .configPath },
    { path := ["config", "set"], use := "set <key> <value>",
      short := "Set one value in the config file, keeping comments",
      long := "Set one value in the config file. Nested keys use dots.\n\nExamples:\n  passflow config set default_backend vitis\n  passflow config set history.keep 100\n  passflow config set tracing.enabled true",
      args := .exactly 2, action := some .configSet },
    { path := ["diff"], use := "diff <flow-a> <flow-b>", short := "Compare two flows' requirements and plans",
      long := "Show a line diff of two flows' direct requirements and of their\nresolved plans. Useful to see what a derived backend flow adds.\n\nExamples:\n  passflow diff vivado:ip vitis:ip\n  passflow diff vitis vitisaccelerator",
      args := .exactly 2, action := some .diff },
    { path := ["flows"], use := "flows [backend]", short := "List registered flows",
      long := "List flows in registration order. With a backend, only that backend's\nflows are listed; --global lists the backend-independent flows.\n\n--check resolves every flow and reports plan entries with no registered\npass. It exits non-zero when any are missing.\n\nExamples:\n  passflow flows\n  passflow flows vitis\n  passflow flows --global\n  passflow flows --check",
      args := .atMost 1, action := some .listFlows,
      flags := [switchFlag "global" "g" "list only backend-independent flows",
        switchFlag "check" "" "report plan entries with no registered pass"] },
    { path := ["help"], use := "help [command]", short := "Help about any command",
      long := "Help provides help for any command in the application.\nSimply type passflow help [path to command] for full details.",
      action := some .help },
    { path := ["history"], use := "history", short := "Inspect recorded compile runs" },
    { path := ["history", "list"], use := "list", short := "List recorded runs, newest first",
      long := "List recorded runs, newest first.\n\nExamples:\n  passflow history list\n  passflow history list --backend vitis --state failed\n  passflow history list --flow vivado:ip --limit 5",
      args := .none, action := some .listRuns,
      flags := [{ name := "flow", short := "f", kind := .text,
                  usage := "only runs of this flow (<backend>:<flow> or a global flow)" },
        { name := "backend", kind := .text, usage := "only runs of this backend's flows" },
        { name := "state", short := "s", kind := .text, usage := "only runs in this state (completed, failed)" },
        { name := "limit", short := "n", kind := .int, usage := "maximum runs to list (0 for all)", default := "20" }] },
    { path := ["history", "prune"], use := "prune", short := "Delete all but the newest runs",
      long := "Delete all but the newest --keep runs.\n\nExamples:\n  passflow history prune --keep 100\n  passflow history prune --keep 0   # delete everything",
      args := .none, action := some .pruneRuns,
      flags := [{ name := "keep", kind := .int, usage := "number of newest runs to keep", default := "0",
                  required := true }] },
    { path := ["history", "show"], use := "show <run-id>", short := "Show one recorded run",
      long := "Show one recorded run. A unique prefix of the run id is enough.\n\nExamples:\n  passflow history show 3f2a9c1e",
      args := .exactly 1, action := some .showRun },
    { path := ["plan"], use := "plan <flow>", short := "Print the pass order a flow resolves to",
      long := "Resolve a flow into its ordered, duplicate-free pass list.\n\nThe flow may be \"<backend>:<flow>\", a backend name (its default flow), a\nglobal flow name, or a flow of the default backend.\n\nExamples:\n  passflow plan vivado:ip\n  passflow plan vitis\n  passflow plan optimize --explain\n  passflow plan vitisaccelerator:ip --json | jq '.passes | length'",
      args := .exactly 1, action := some .plan,
      flags := [switchFlag "explain" "e" "group passes by the flow that contributed them"] },
    { path := ["watch"], use := "watch", short := "Reload and check pipeline files whenever they change",
      long := "Watch the pipelines directory and bring the backends up again after\nevery change, then report plan entries with no registered pass. Errors in a\npipeline file are printed and the last good pipelines stay loaded.\n\nRequires pipelines_dir or --pipelines. With --verbose, log lines are\nstreamed to stderr.\n\nExamples:\n  passflow watch --pipelines ./pipelines\n  passflow watch -p . --verbose",
      args := .none, action := some .watch,
      flags := [switchFlag "verbose" "v" "stream log output to stderr"] } ] ++
  (["bash", "fish", "powershell", "zsh"].map fun shell =>
    { path := ["completion", shell], use := shell,
      short := "Generate the autocompletion script for " ++ shell, args := .none,
      action := some (.completion shell), bareUseLine := true,
      flags := [switchFlag "no-descriptions" "" "disable completion descriptions"] })

/-- The top command. -/
def topCommand : Command := commands.headD { path := [], use := programName, short := "" }

namespace Command

/-- The commands directly below a command, by name. -/
def children (c : Command) : List Command :=
  (commands.filter fun d => d.path.length = c.path.length + 1 && d.path.take c.path.length = c.path).mergeSort
    fun a b => decide (a.name ≤ b.name)

/-- The command below this one with a name. -/
def child? (c : Command) (name : String) : Option Command := c.children.find? (·.name = name)

/-- Whether the command is the help command. -/
def isHelp (c : Command) : Bool := c.path = ["help"]

/-- Whether a command is offered: it does something, or offers a command below it; the help
command is not offered. -/
def available (c : Command) : Bool :=
  !c.isHelp && (c.runnable || c.children.any fun d => d.runnable)

/-- Whether some command below is offered. -/
def hasAvailableChildren (c : Command) : Bool := c.children.any available

/-- The command's own flags, with the inherited ones first at the top. -/
def ownFlags (c : Command) : List FlagSpec :=
  if c.path = [] then globalFlags ++ c.flags else c.flags

/-- The `--help` flag of a command. -/
def helpFlag (c : Command) : FlagSpec := switchFlag "help" "h" ("help for " ++ c.name)

/-- The `--version` flag of the top command. -/
def versionFlag : FlagSpec := switchFlag "version" "v" ("version for " ++ programName)

/-- The flags listed as the command's own: its flags, and the help and version flags added when
it runs. -/
def localFlags (c : Command) : List FlagSpec :=
  c.ownFlags ++ [c.helpFlag] ++ (if c.path = [] then [versionFlag] else [])

/-- The inherited flags a command does not shadow with one of its own. -/
def inheritedFlags (c : Command) : List FlagSpec :=
  if c.path = [] then [] else globalFlags.filter fun g => !c.flags.any (·.name = g.name)

/-- The flags a command reads when it runs. -/
def runFlags (c : Command) : List FlagSpec := c.localFlags ++ c.inheritedFlags

/-- The flags a command knows before it runs, when its words are looked up. -/
def lookupFlags (c : Command) : List FlagSpec := c.ownFlags ++ c.inheritedFlags

/-- The use line: the path to the parent, the use, and the flags mark. -/
def useLine (c : Command) : String :=
  let line := if c.path = [] then c.use
    else " ".intercalate (programName :: c.path.dropLast) ++ " " ++ c.use
  if c.bareUseLine || (line.splitOn "[flags]").length > 1 then line else line ++ " [flags]"

/-- A text padded with blanks to a width. -/
def padRight (s : String) (w : Nat) : String := s ++ String.ofList (List.replicate (w - s.length) ' ')

/-- Text without trailing white space. -/
def trimEnd (s : String) : String := String.ofList (s.toList.reverse.dropWhile Char.isWhitespace).reverse

/-- The usage text of a command: how to call it, the commands below it, its flags and the
inherited ones. -/
def usage (c : Command) : String :=
  let subs := c.hasAvailableChildren
  let pad := max 11 ((c.children.map fun d => d.name.length).foldl max 0)
  "Usage:" ++ (if c.runnable then "\n  " ++ c.useLine else "") ++
    (if subs then "\n  " ++ c.commandPath ++ " [command]" else "") ++
    (if subs then "\n\nAvailable Commands:" ++ String.join ((c.children.filter fun d => d.available || d.isHelp).map
      fun d => "\n  " ++ padRight d.name pad ++ " " ++ d.short) else "") ++
    "\n\nFlags:\n" ++ trimEnd (usageTable c.localFlags) ++
    (if c.inheritedFlags.isEmpty then "" else "\n\nGlobal Flags:\n" ++ trimEnd (usageTable c.inheritedFlags)) ++
    (if subs then "\n\nUse \"" ++ c.commandPath ++ " [command] --help\" for more information about a command."
      else "") ++ "\n"

/-- The help text of a command: its long description, or its short one, then its usage. -/
def helpText (c : Command) : String :=
  let about := if c.long ≠ "" then c.long else c.short
  (if about = "" then "" else trimEnd about ++ "\n\n") ++
    (if c.runnable || !c.children.isEmpty then c.usage else "")

end Command

/-- The version line. -/
def versionText (version : String) : String := programName ++ " version " ++ version ++ "\n"

end PassPlan.Cli
