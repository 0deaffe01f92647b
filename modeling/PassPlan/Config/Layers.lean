import PassPlan.Config.Defaults
import PassPlan.Workspace.Files
import PassPlan.Yaml.Decode
import PassPlan.Json.Reader
import PassPlan.Json.Value
import PassPlan.Value.Duration
import PassPlan.Value.Numeral
import PassPlan.Text.Lower
import PassPlan.Text.Upper
import PassPlan.Log.Line
import PassPlan.Toml.Table
import PassPlan.Dotenv
/-!
The settings a command runs with, taken from four layers in order of precedence: the flags given
on the command line, the environment, the settings file, and the defaults. A key is a path of
lower-case names joined by dots. A variable `PASSFLOW_<KEY>` (the dots made underscores, the
whole upper case) sets any key when it is not empty, and one set for a section hides every key
inside it. A value in the file that is not a mapping hides the defaults below it, and a null
value leaves the key to the defaults.

The gathered values are then read into the settings loosely: a number or a truth value serves
as text, text and numbers serve as truth values, text is read as a numeral, a float or a
duration where one is wanted, and a value of the wrong shape leaves that setting at its zero.

The settings file is the one named on the command line, made from the template when missing;
else the project's `.passflow/config.yaml`; else the first settings file in the settings
directory under the home directory, made from the template when there is none.
-/
namespace PassPlan.Config

open Workspace (Tree)

/-- A map's entries with their keys in lower case, all the way down; a map with keys that are
not text has them written out. -/
def lowerKeys : Nat → Value → Value
  | 0, v => v
  | fuel + 1, v =>
    match v with
    | .dict kvs => .dict (kvs.map fun (k, x) => (Text.lower k, lowerKeys fuel x))
    | .table kvs => .dict (kvs.map fun (k, x) => (Text.lower (Log.fieldText k), lowerKeys fuel x))
    | .list xs => .list (xs.map (lowerKeys fuel))
    | x => x

/-- The entries of a value that is a map. -/
def entriesOf : Value → Option (List (String × Value))
  | .dict kvs => some kvs
  | .table kvs => some (kvs.map fun (k, x) => (Log.fieldText k, x))
  | _ => none

/-- The value at a path of keys, each step into a map. -/
def searchMap : List String → Value → Option Value
  | [], v => some v
  | k :: rest, v => (entriesOf v).bind fun kvs => (kvs.lookup k).bind fun x =>
    if rest.isEmpty then some x else searchMap rest x

/-- The value at a path of keys where a map's key may itself hold dots: the longest run of
keys joined by dots is tried first. -/
def searchPrefixes : Nat → List String → Value → Option Value
  | _, [], v => some v
  | 0, _, _ => none
  | fuel + 1, path, v =>
    (List.range path.length).reverse.findSome? fun i =>
      let n := i + 1
      ((entriesOf v).bind fun kvs => kvs.lookup (".".intercalate (path.take n))).bind fun x =>
        if n = path.length then (match x with | .null => none | x => some x)
        else match x with
          | .dict _ | .table _ => searchPrefixes fuel (path.drop n) x
          | _ => none

/-- Whether a section of a path holds a value other than a map or null in a layer. -/
def shadowedIn (layer : Value) (path : List String) : Bool :=
  ((List.range path.length).drop 1).any fun i =>
    match searchMap (path.take i) layer with
    | some (.dict _) | some (.table _) | some .null | none => false
    | some _ => true

/-- The keys a layer defines, each a path to a value that is not a map, added to the keys
known before unless a section of them is already a key. -/
def flatten : Nat → List String → String → List (String × Value) → List String
  | 0, known, _, _ => known
  | fuel + 1, known, pre, kvs =>
    if pre ≠ "" && known.contains pre then known
    else kvs.foldl (fun known (k, x) =>
      let full := if pre = "" then k else pre ++ "." ++ k
      match entriesOf x with
      | some inner => flatten fuel known full inner
      | none => if known.contains (Text.lower full) then known else known ++ [Text.lower full]) known

/-- The settings layers below the command line. -/
structure Layers where
  /-- The command-line flags that were given, by the key they set. -/
  given : List (String × String) := []
  /-- The environment's variables. -/
  env : List (String × String) := []
  /-- The settings file's content. -/
  file : Value := .dict []
  /-- The defaults. -/
  defaults : Value := .dict []

/-- The keys bound to command-line flags. -/
def flagKeys : List String := ["pipelines_dir", "default_backend"]

/-- The variable that sets a key. -/
def envName (key : String) : String := Text.upper (appName ++ "_" ++ key.replace "." "_")

namespace Layers

/-- A variable of the environment, when set and not empty. -/
def envValue? (l : Layers) (name : String) : Option String :=
  (l.env.lookup name).bind fun v => if v = "" then none else some v

/-- The value of a key: the flag given, the variable set, the file's value, the default; a
section set by a layer that is not a map hides the key. -/
def get? (l : Layers) (key : String) : Option Value :=
  let path := key.splitOn "."
  let nested := path.length > 1
  let envShadowed := ((List.range path.length).drop 1).any fun i =>
    (l.envValue? (envName (".".intercalate (path.take i)))).isSome
  match l.given.lookup key with
  | some v => some (.str v)
  | none =>
    match l.envValue? (envName key) with
    | some v => some (.str v)
    | none =>
      if nested && envShadowed then none
      else match searchPrefixes (path.length + 1) path l.file with
        | some v => some v
        | none =>
          if nested && shadowedIn l.file path then none
          else match searchMap path l.defaults with
            | some .null | none =>
              if nested && shadowedIn l.defaults path then none
              else if flagKeys.contains key then some (.str "") else none
            | some v => some v

/-- Every key some layer defines. -/
def keys (l : Layers) : List String :=
  let fromFile := flatten (l.file.weight + 1) flagKeys "" ((entriesOf l.file).getD [])
  flatten (l.defaults.weight + 1) fromFile "" ((entriesOf l.defaults).getD [])

/-- Sets a value at a path of a map, making the sections on the way maps. -/
def place : List String → Value → List (String × Value) → List (String × Value)
  | [], _, kvs => kvs
  | [k], v, kvs => Attrs.set kvs k v
  | k :: rest, v, kvs =>
    let inner := match kvs.lookup k with
      | some (.dict inner) => inner
      | _ => []
    Attrs.set kvs k (.dict (place rest v inner))

/-- All the settings as one map, each key holding the value of its highest layer. -/
def gathered (l : Layers) : List (String × Value) :=
  l.keys.foldl (fun m k =>
    match l.get? k with
    | some v => place (k.splitOn ".") v m
    | none => m) []

end Layers

/-- A value read as text: numbers and truth values are written out. -/
def looseText : Value → Option String
  | .str s => some s
  | .bool b => some (if b then "1" else "0")
  | .int i => some (toString i)
  | .uint n => some (toString n)
  | .float f => some (Decimal.shortestFixed f)
  | _ => none

/-- A value read as a truth value: numbers are true unless zero, and text is read as a truth
value, the empty text being false. -/
def looseFlag : Value → Option Bool
  | .bool b => some b
  | .int i => some (i ≠ 0)
  | .uint n => some (n ≠ 0)
  | .float f => some (f != 0)
  | .str s => if s = "" then some false else (Numeral.parseBool s).toOption
  | _ => none

/-- A float's integer part, as a 64-bit conversion gives it. -/
def truncated (f : Float) : Int :=
  if f.isNaN || f ≥ 9223372036854775808.0 || f < -9223372036854775808.0 then -9223372036854775808
  else if f < 0 then -((-f).floor.toUInt64.toNat : Int) else (f.floor.toUInt64.toNat : Int)

/-- A value read as an integer: floats are truncated, truth values are one or zero, and text
is read as a numeral, the empty text being zero. -/
def looseInt : Value → Option Int
  | .int i => some i
  | .uint n => some n
  | .float f => some (truncated f)
  | .bool b => some (if b then 1 else 0)
  | .str s => if s = "" then some 0 else (Numeral.parseInt s).toOption
  | _ => none

/-- A value read as a float: text is read as a decimal or hexadecimal floating-point number,
the empty text being zero. -/
def looseFloat : Value → Option Float
  | .float f => some f
  | .int i => some (Float.ofInt i)
  | .uint n => some (Float.ofNat n)
  | .bool b => some (if b then 1 else 0)
  | .str s => if s = "" then some 0 else Numeral.parseFloat s
  | _ => none

/-- A value read as a duration in nanoseconds: text is read as a duration, numbers count
nanoseconds. -/
def looseDuration : Value → Option Int
  | .str s => (Duration.parse s).toOption
  | v => looseInt v

/-- A setting read from a map by its key, or the zero value. -/
def field (kvs : List (String × Value)) (key : String) (read : Value → Option α) (zero : α) : α :=
  ((kvs.lookup key).bind read).getD zero

/-- The history settings from their section. -/
def History.ofEntries (kvs : List (String × Value)) : History :=
  { enabled := field kvs "enabled" looseFlag false, path := field kvs "path" looseText "",
    keep := field kvs "keep" looseInt 0 }

/-- The tracing settings from their section. -/
def Tracing.ofEntries (kvs : List (String × Value)) : Tracing :=
  { enabled := field kvs "enabled" looseFlag false, exporter := field kvs "exporter" looseText "",
    filePath := field kvs "file_path" looseText "", otlpEndpoint := field kvs "otlp_endpoint" looseText "",
    sampleRate := field kvs "sample_rate" looseFloat 0, serviceName := field kvs "service_name" looseText "" }

/-- A section read as a map, or nothing. -/
def section? (kvs : List (String × Value)) (key : String) : Option (List (String × Value)) :=
  (kvs.lookup key).bind entriesOf

/-- The opt-in flags from their section: each entry read as a truth value, those that are not
left out. -/
def Flags.ofEntries (kvs : List (String × Value)) : Flags :=
  Flags.ofList (kvs.filterMap fun (k, v) => (looseFlag v).map (k, ·))

/-- The settings from the gathered map. -/
def Settings.ofEntries (kvs : List (String × Value)) : Settings :=
  { pipelinesDir := field kvs "pipelines_dir" looseText "",
    defaultBackend := field kvs "default_backend" looseText "",
    debug := field kvs "debug" looseFlag false,
    logPath := field kvs "log_path" looseText "",
    history := ((section? kvs "history").map History.ofEntries).getD {},
    watch := ((section? kvs "watch").map fun w => ({ debounce := field w "debounce" looseDuration 0 } : Watch)).getD {},
    tracing := ((section? kvs "tracing").map Tracing.ofEntries).getD {},
    flags := (section? kvs "flags").map Flags.ofEntries }

/-- The defaults as a layer. -/
def defaultLayer (home : Option String) : Value :=
  let d := Settings.defaults home
  .dict [("pipelines_dir", .str d.pipelinesDir), ("default_backend", .str d.defaultBackend),
    ("debug", .bool d.debug), ("log_path", .str d.logPath),
    ("history", .dict [("enabled", .bool d.history.enabled), ("path", .str d.history.path),
      ("keep", .int d.history.keep)]),
    ("watch", .dict [("debounce", .int d.watch.debounce)]),
    ("tracing", .dict [("enabled", .bool d.tracing.enabled), ("exporter", .str d.tracing.exporter),
      ("file_path", .str d.tracing.filePath), ("otlp_endpoint", .str d.tracing.otlpEndpoint),
      ("sample_rate", .float d.tracing.sampleRate), ("service_name", .str d.tracing.serviceName)])]

/-- The extensions a settings file is looked for with, in order. -/
def fileExtensions : List String :=
  ["json", "toml", "yaml", "yml", "properties", "props", "prop", "hcl", "tfvars", "dotenv", "env", "ini"]

/-- The content of a settings file read in a format, YAML, JSON, TOML or an env file (whose
variables see those of the environment); none when it cannot be read as a mapping. The other
formats known by their extension are not read. -/
def parseFile (env : List (String × String)) (format text : String) : Option Value :=
  let asMap (v : Value) : Option Value :=
    match v with
    | .null => some (.dict [])
    | .dict _ | .table _ => some (lowerKeys (v.weight + 1) v)
    | _ => none
  if format = "yaml" || format = "yml" then
    match Yaml.decodeText .any text with
    | .value v => asMap v
    | _ => none
  else if format = "json" then
    match Json.parse text with
    | .ok j => asMap j.value
    | .error _ => none
  else if format = "toml" then
    match Toml.parse text with
    | .ok v => asMap v
    | .error _ => none
  else if format = "env" || format = "dotenv" then
    (Dotenv.parse env text).bind fun kvs => asMap (.dict (Attrs.ofList (kvs.map fun (k, v) => (k, .str v))))
  else none

/-- The format of a named settings file: its extension. -/
def formatOf (path : String) : String :=
  let base := Workspace.Path.base path
  match (base.splitOn ".").getLast? with
  | some ext => if (base.splitOn ".").length > 1 then ext else ""
  | none => ""

/-- The project's settings file. -/
def localPath : String := Workspace.Path.join [".passflow", "config.yaml"]

/-- Where the settings came from: the file used, empty for none, and its content. -/
structure Source where
  used : String := ""
  content : Value := .dict []

/-- The content of a settings file in a format, empty when it cannot be read. -/
def readSource (t : Tree) (env : List (String × String)) (path format : String) : Source :=
  let content := if fileExtensions.contains format then
      match t.readText path with
      | .ok text => (parseFile env format text).getD (.dict [])
      | .error _ => .dict []
    else .dict []
  { used := path, content }

/-- Finds the settings file: the named one, made from the template when it does not exist; the
project's; or the first file named `config` in the settings directory, made from the template
when there is none. -/
def findSource (t : Tree) (named : String) (env : List (String × String)) : Tree × Source :=
  let home := env.lookup "HOME"
  if named ≠ "" then
    let t := match t.entry true named with
      | .error .noent => (writeTemplate t named).toOption.getD t
      | _ => t
    (t, readSource t env named (formatOf named))
  else if (t.entry true localPath).toOption.isSome then (t, readSource t env localPath "yaml")
  else
    let dir := configDir home
    if dir = "" then (t, {})
    else
      let candidates := fileExtensions.map (fun e => Workspace.Path.join [dir, "config." ++ e]) ++ [Workspace.Path.join [dir, "config"]]
      match candidates.find? fun p => t.isFile p with
      | some p => (t, readSource t env p "yaml")
      | none =>
        let p := Workspace.Path.join [dir, "config.yaml"]
        match writeTemplate t p with
        | .ok t => (t, readSource t env p "yaml")
        | .error _ => (t, {})

/-- The settings of a command and the file they came from. -/
structure Loaded where
  settings : Settings
  used : String

/-- Loads the settings: finds the settings file, gathers the layers, reads the settings and
resolves the pipelines directory. -/
def load (t : Tree) (named : String) (given : List (String × String)) (env : List (String × String)) :
    Tree × Loaded :=
  let home := env.lookup "HOME"
  let (t, src) := findSource t named env
  let layers : Layers := { given, env, file := src.content, defaults := defaultLayer home }
  let s := Settings.ofEntries layers.gathered
  (t, ⟨{ s with pipelinesDir := t.pipelinesDir s.pipelinesDir }, src.used⟩)

/-- The settings file changes are written to: the one in use, else the one in the settings
directory, else the project's. -/
def savePath (used : String) (home : Option String) : String :=
  if used ≠ "" then used
  else
    let dir := configDir home
    if dir ≠ "" then Workspace.Path.join [dir, "config.yaml"] else localPath

end PassPlan.Config
