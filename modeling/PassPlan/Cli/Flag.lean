import PassPlan.Value.Numeral
/-!
Command-line flags: switches, texts and integers, each with a long name, an optional one-letter
name, a usage line and a default. A switch takes no value unless one is joined to it with `=`;
the others take the next argument, an integer read as a numeral with an optional base prefix.
The usage table lists the flags by name with their value kind, their usage aligned in one
column, and their default when it is not the zero value.
-/
namespace PassPlan.Cli

/-- What a flag holds. -/
inductive FlagKind where
  | switch
  | text
  | int
deriving DecidableEq, Repr

/-- A flag: its long name, its one-letter name or nothing, its kind, its usage line, its
default as text, and whether it must be given. -/
structure FlagSpec where
  name : String
  short : String := ""
  kind : FlagKind
  usage : String
  default : String := ""
  required : Bool := false
deriving Repr

/-- The value of a flag that was given. -/
inductive FlagValue where
  | switch (b : Bool)
  | text (s : String)
  | int (i : Int)
deriving DecidableEq, Repr

/-- The value a flag takes from its text. -/
def FlagSpec.read (f : FlagSpec) (s : String) : Except String FlagValue :=
  match f.kind with
  | .switch => (Numeral.parseBool s).map .switch
  | .text => .ok (.text s)
  | .int => (Numeral.parseInt s).map .int

/-- Whether the flag takes a value only when one is joined to it. -/
def FlagSpec.optionalValue (f : FlagSpec) : Bool := f.kind = .switch

/-- The name a failure to read a flag's value gives it. -/
def FlagSpec.label (f : FlagSpec) : String :=
  if f.short ≠ "" then "-" ++ f.short ++ ", --" ++ f.name else "--" ++ f.name

/-- Whether the default is the zero value of the flag's kind. -/
def FlagSpec.defaultIsZero (f : FlagSpec) : Bool :=
  match f.kind with
  | .switch => f.default = "false" || f.default = ""
  | .text => f.default = ""
  | .int => f.default = "0" || f.default = ""

/-- The usage table of flags, sorted by name: the names and value kind, then the usage in a
column two places past the widest of those, then the default when it is not zero. -/
def usageTable (flags : List FlagSpec) : String :=
  let sorted := flags.mergeSort fun a b => decide (a.name ≤ b.name)
  let head (f : FlagSpec) : String :=
    let names := if f.short ≠ "" then "  -" ++ f.short ++ ", --" ++ f.name else "      --" ++ f.name
    match f.kind with
    | .switch => names
    | .text => names ++ " string"
    | .int => names ++ " int"
  let tail (f : FlagSpec) : String :=
    if f.defaultIsZero then f.usage
    else if f.kind = .text then f.usage ++ " (default " ++ Text.quote f.default ++ ")"
    else f.usage ++ " (default " ++ f.default ++ ")"
  let widest := (sorted.map fun f => (head f).length + 1).foldl max 0
  String.join (sorted.map fun f =>
    let h := head f
    h ++ " " ++ String.ofList (List.replicate (widest - h.length) ' ') ++ " " ++ tail f ++ "\n")

end PassPlan.Cli
