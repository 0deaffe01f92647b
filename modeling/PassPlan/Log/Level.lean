import PassPlan.Text.Lower
import PassPlan.Text.Blank
import PassPlan.Text.Quoted
/-!
Log levels, from debug to error. A level reads from its word in any case and with blanks
around it; the empty word is the default level, info, and `warning` is a second word for warn.
-/
namespace PassPlan.Log

/-- How serious a log entry is. -/
inductive Level where
  | debug
  | info
  | warn
  | error
deriving DecidableEq, Repr, Inhabited

namespace Level

/-- All levels, by code. -/
def all : List Level := [.debug, .info, .warn, .error]

/-- The code of a level; codes grow with seriousness. -/
def code : Level → Nat
  | .debug => 0
  | .info => 1
  | .warn => 2
  | .error => 3

/-- The upper-case name of a level. -/
def name : Level → String
  | .debug => "DEBUG"
  | .info => "INFO"
  | .warn => "WARN"
  | .error => "ERROR"

/-- The name of the level with a code; other codes are unknown. -/
def nameOf (n : Int) : String :=
  match all.find? fun l => (l.code : Int) = n with
  | some l => l.name
  | none => "UNKNOWN"

/-- Reads a level from its word. -/
def parse (s : String) : Except String Level :=
  match Text.lower (Text.trim s) with
  | "debug" => .ok .debug
  | "info" | "" => .ok .info
  | "warn" | "warning" => .ok .warn
  | "error" => .ok .error
  | _ => .error ("unknown log level " ++ Text.quote s)

end Level
end PassPlan.Log
