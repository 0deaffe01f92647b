import PassPlan.Cli.Command
import PassPlan.Text.Lower
/-!
Reading a command line. The command is found first: words that are not flags name commands
from the top down, a flag that takes a value hiding the word after it. The rest of the line is
then read against the found command's flags: long flags `--name`, `--name=value`, short flags
`-n`, `-nvalue`, `-n=value` and runs of switches `-abc`, with `--` ending the flags; every other
word is a positional argument. A top-level word that names no command is an unknown command,
with the commands whose names are close offered instead.
-/
namespace PassPlan.Cli

/-- The flag a long name stands for among flags. -/
def flagNamed? (flags : List FlagSpec) (name : String) : Option FlagSpec := flags.find? (·.name = name)

/-- The flag a one-letter name stands for among flags. -/
def flagLettered? (flags : List FlagSpec) (c : Char) : Option FlagSpec :=
  flags.find? fun f => f.short = String.singleton c

/-- Whether a word is a flag that takes the next word as its value: a long flag without `=`
that is not a switch, known or not, or a one-letter flag alone that is not a switch. -/
def takesNext (flags : List FlagSpec) (s : String) : Bool :=
  let noEq := !s.toList.contains '='
  if s.startsWith "--" && noEq then
    !((flagNamed? flags (s.drop 2).toString).map (·.optionalValue)).getD false
  else if s.startsWith "-" && noEq && s.utf8ByteSize = 2 then
    !(((s.toList.drop 1).head?.bind (flagLettered? flags)).map (·.optionalValue)).getD false
  else false

/-- The words of a line that are not flags or their values; a flag taking a value as the last
but one word ends the search. -/
def commandWords (flags : List FlagSpec) : List String → List String
  | [] => []
  | s :: rest =>
    if s = "--" then []
    else if takesNext flags s then
      match rest with
      | _ :: more => if more.isEmpty then [] else commandWords flags more
      | [] => []
    else if s ≠ "" && !s.startsWith "-" then s :: commandWords flags rest
    else commandWords flags rest

/-- A line without the first word equal to a command name that is not a flag or a flag's
value. -/
def withoutWord (flags : List FlagSpec) (x : String) : List String → List String
  | [] => []
  | s :: rest =>
    if s = "--" then s :: rest
    else if takesNext flags s then
      match rest with
      | v :: more => s :: v :: withoutWord flags x more
      | [] => [s]
    else if !s.startsWith "-" && s = x then rest
    else s :: withoutWord flags x rest

/-- The edit distance between two texts, by bytes, ignoring case. -/
def editDistance (a b : String) : Nat :=
  let s := (Text.lower a).toUTF8.toList
  let t := (Text.lower b).toUTF8.toList
  let first := List.range (s.length + 1)
  let row (prev : List Nat) (jc : Nat × UInt8) : List Nat :=
    let (j, c) := jc
    let cells := (s.zip (prev.zip (prev.drop 1))).foldl (fun (acc : List Nat) (sc, diag, up) =>
      let left := acc.headD 0
      let cell := if sc = c then diag else (min up (min left diag)) + 1
      cell :: acc) [j + 1]
    cells.reverse
  ((t.zipIdx.map fun (c, j) => (j, c)).foldl row first).getLastD 0

/-- The commands below a command offered for a mistyped name: those within two edits of it,
and those it begins. -/
def suggestions (c : Command) (typed : String) : List String :=
  (c.children.filter (·.available)).filterMap fun d =>
    if editDistance typed d.name ≤ 2 || (Text.lower d.name).startsWith (Text.lower typed) then some d.name
    else none

/-- The text offering suggestions, empty when there are none. -/
def suggestionText (c : Command) (typed : String) : String :=
  match suggestions c typed with
  | [] => ""
  | ss => "\n\nDid you mean this?\n" ++ String.join (ss.map fun s => "\t" ++ s ++ "\n")

/-- Finds the command a line names: the command, the rest of the line for it, and a failure
when the line names no command at the top. -/
def findCommand (args : List String) : Command × List String × Option String :=
  let rec go (fuel : Nat) (c : Command) (rest : List String) : Command × List String :=
    match fuel with
    | 0 => (c, rest)
    | fuel + 1 =>
      match commandWords c.lookupFlags rest with
      | [] => (c, rest)
      | w :: _ =>
        match c.child? w with
        | some d => go fuel d (withoutWord c.lookupFlags w rest)
        | none => (c, rest)
  let (c, rest) := go (args.length + 1) topCommand args
  let words := commandWords c.lookupFlags rest
  let failure :=
    if c.args = .free && c.path = [] && !c.children.isEmpty then
      match words with
      | w :: _ => some ("unknown command " ++ Text.quote w ++ " for " ++ Text.quote c.commandPath ++ suggestionText c w)
      | [] => none
    else none
  (c, rest, failure)

/-- The flags given on a line and its positional arguments. -/
structure Given where
  values : List (String × FlagValue) := []
  args : List String := []

namespace Given

/-- The value last given to a flag. -/
def value? (g : Given) (name : String) : Option FlagValue := (g.values.reverse.find? (·.1 = name)).map (·.2)

/-- Whether a flag was given. -/
def changed (g : Given) (name : String) : Bool := (g.value? name).isSome

/-- A text flag's value, or its default. -/
def text (g : Given) (name : String) : String :=
  match g.value? name with
  | some (.text s) => s
  | _ => ""

/-- A switch's value. -/
def switch (g : Given) (name : String) : Bool :=
  match g.value? name with
  | some (.switch b) => b
  | _ => false

/-- An integer flag's value, or a default. -/
def int (g : Given) (name : String) (default : Int) : Int :=
  match g.value? name with
  | some (.int i) => i
  | _ => default

/-- Sets a flag from its text, failing as the flag's kind reads it. -/
def set (g : Given) (f : FlagSpec) (value : String) : Except String Given :=
  match f.read value with
  | .ok v => .ok { g with values := g.values ++ [(f.name, v)] }
  | .error e => .error ("invalid argument " ++ Text.quote value ++ " for " ++ Text.quote f.label ++ " flag: " ++ e)

end Given

/-- A byte written as a quoted character. -/
def quoteLetter (c : Char) : String := "'" ++ String.singleton c ++ "'"

/-- Reads a run of one-letter flags after a single dash; the words after it are as they were
when the run began. -/
def readLetters (flags : List FlagSpec) (after : List String) :
    Nat → List Char → Given × List String → Except String (Given × List String)
  | 0, _, acc => .ok acc
  | _, [], acc => .ok acc
  | fuel + 1, c :: more, (g, rest) =>
    let run := String.ofList (c :: more)
    match flagLettered? flags c with
    | none => .error ("unknown shorthand flag: " ++ quoteLetter c ++ " in -" ++ run)
    | some f =>
      match more with
      | '=' :: v :: vs => do let g ← g.set f (String.ofList (v :: vs)); pure (g, rest)
      | _ =>
        if f.optionalValue then do
          let g ← g.set f "true"
          readLetters flags after fuel more (g, rest)
        else if !more.isEmpty then do let g ← g.set f (String.ofList more); pure (g, rest)
        else
          match after with
          | v :: vs => do let g ← g.set f v; pure (g, vs)
          | [] => .error ("flag needs an argument: " ++ quoteLetter c ++ " in -" ++ run)

/-- Reads a line against flags: the flags given and the positional arguments. Each step takes
at least one word, so the fuel is the number of words. -/
def readFlags (flags : List FlagSpec) : Nat → List String → Given → Except String Given
  | 0, _, g => .ok g
  | _, [], g => .ok g
  | fuel + 1, s :: rest, g =>
    if s.length < 2 || !s.startsWith "-" then readFlags flags fuel rest { g with args := g.args ++ [s] }
    else if s = "--" then .ok { g with args := g.args ++ rest }
    else if s.startsWith "--" then
      let body := (s.drop 2).toString
      if body.startsWith "-" || body.startsWith "=" then .error ("bad flag syntax: " ++ s)
      else
        let (name, joined) := match body.splitOn "=" with
          | n :: v :: vs => (n, some ("=".intercalate (v :: vs)))
          | _ => (body, none)
        match flagNamed? flags name with
        | none => .error ("unknown flag: --" ++ name)
        | some f =>
          match joined with
          | some v => do readFlags flags fuel rest (← g.set f v)
          | none =>
            if f.optionalValue then do readFlags flags fuel rest (← g.set f "true")
            else match rest with
              | v :: more => do readFlags flags fuel more (← g.set f v)
              | [] => .error ("flag needs an argument: " ++ s)
    else do
      let letters := s.toList.drop 1
      let (g, rest) ← readLetters flags rest (letters.length + 1) letters (g, rest)
      readFlags flags fuel rest g

/-- Reads a command's part of a line against the flags it runs with. -/
def Command.read (c : Command) (line : List String) : Except String Given :=
  readFlags c.runFlags (line.length + 1) line {}

end PassPlan.Cli
